import Mathlib.Algebra.Order.Field.Power
import Mathlib.Algebra.Order.Field.Rat
import Mathlib.Tactic.FieldSimp
import Mathlib.Tactic.Linarith
import Mathlib.Tactic.NormNum
import Mathlib.Tactic.Positivity
import Mathlib.Tactic.Ring
import IntentRollout.Binary64.Shortest

/-! The ratios that round to a number. They are a stretch around it, up to half of the last place above and below,
and below a power of two up to a quarter. Rounding takes every ratio of the stretch back to the number. -/

namespace IntentRollout.Binary64

theorem zpow_eq_div {base : ℚ} (nonzero : base ≠ 0) (power : Int) :
    base ^ power = base ^ power.toNat / base ^ (-power).toNat := by
  rw [div_eq_mul_inv, ← zpow_natCast, ← zpow_natCast, ← zpow_neg, ← zpow_add₀ nonzero]
  congr 1
  omega

theorem zpow_two_pos (power : Int) : (0 : ℚ) < 2 ^ power := zpow_pos (by norm_num) power

theorem zpow_two_le {low high : Int} (below : low ≤ high) : (2 : ℚ) ^ low ≤ 2 ^ high :=
  zpow_le_zpow_right₀ (by norm_num) below

theorem lt_of_zpow_two_lt {low high : Int} (below : (2 : ℚ) ^ low < 2 ^ high) : low < high :=
  (zpow_lt_zpow_iff_right₀ (by norm_num)).mp below

theorem zpow_two_add (power more : Int) : (2 : ℚ) ^ (power + more) = 2 ^ power * 2 ^ more :=
  zpow_add₀ (by norm_num) power more

private theorem zpow_two_places (power : Int) (places : Nat) : (2 : ℚ) ^ (power + places) = 2 ^ places * 2 ^ power := by
  rw [zpow_two_add, zpow_natCast, mul_comm]

private theorem zpow_le_div_iff (numerator : Nat) {denominator : Nat} (positive : 0 < denominator) (power : Int) :
    (2 : ℚ) ^ power ≤ numerator / denominator ↔
      denominator * 2 ^ power.toNat ≤ numerator * 2 ^ (-power).toNat := by
  have some : (0 : ℚ) < denominator := by exact_mod_cast positive
  rw [zpow_eq_div (by norm_num), div_le_div_iff₀ (by positivity) some, mul_comm]
  exact_mod_cast Iff.rfl

private theorem div_lt_zpow_log2 (numerator : Nat) {denominator : Nat} (positive : 0 < denominator) :
    (numerator : ℚ) / denominator < 2 ^ ((numerator.log2 : Int) - denominator.log2 + 1) := by
  have divides : (0 : ℚ) < denominator := by exact_mod_cast positive
  have top : (numerator : ℚ) < 2 ^ ((numerator.log2 : Int) + 1) := by
    exact_mod_cast Nat.lt_log2_self (n := numerator)
  have bottom : (2 : ℚ) ^ (denominator.log2 : Int) ≤ denominator := by
    exact_mod_cast Nat.log2_self_le (Nat.ne_of_gt positive)
  rw [div_lt_iff₀ divides]
  calc (numerator : ℚ) < 2 ^ ((numerator.log2 : Int) + 1) := top
    _ = 2 ^ ((numerator.log2 : Int) - denominator.log2 + 1) * 2 ^ (denominator.log2 : Int) := by
      rw [← zpow_two_add]
      congr 1
      omega
    _ ≤ _ := mul_le_mul_of_nonneg_left bottom (zpow_two_pos _).le

private theorem zpow_log2_le_div {numerator denominator : Nat} (some : 0 < numerator) (positive : 0 < denominator) :
    (2 : ℚ) ^ ((numerator.log2 : Int) - denominator.log2 - 1) ≤ numerator / denominator := by
  have divides : (0 : ℚ) < denominator := by exact_mod_cast positive
  have top : (denominator : ℚ) < 2 ^ ((denominator.log2 : Int) + 1) := by
    exact_mod_cast Nat.lt_log2_self (n := denominator)
  have bottom : (2 : ℚ) ^ (numerator.log2 : Int) ≤ numerator := by
    exact_mod_cast Nat.log2_self_le (Nat.ne_of_gt some)
  rw [le_div_iff₀ divides]
  calc (2 : ℚ) ^ ((numerator.log2 : Int) - denominator.log2 - 1) * denominator
      ≤ 2 ^ ((numerator.log2 : Int) - denominator.log2 - 1) * 2 ^ ((denominator.log2 : Int) + 1) :=
        mul_le_mul_of_nonneg_left top.le (zpow_two_pos _).le
    _ = 2 ^ (numerator.log2 : Int) := by
      rw [← zpow_two_add]
      congr 1
      omega
    _ ≤ numerator := bottom

/-- A ratio has at most fifty-three binary places from the last one on, and fewer only near zero. -/
theorem lastPlace_spec {numerator denominator : Nat} (some : 0 < numerator) (positive : 0 < denominator) :
    -1074 ≤ lastPlace numerator denominator ∧
      (numerator : ℚ) / denominator < 2 ^ (lastPlace numerator denominator + 53) ∧
      (lastPlace numerator denominator = -1074 ∨
        (2 : ℚ) ^ (lastPlace numerator denominator + 52) ≤ numerator / denominator) := by
  have above := div_lt_zpow_log2 numerator positive
  have below := zpow_log2_le_div some positive
  have reached := zpow_le_div_iff numerator positive ((numerator.log2 : Int) - denominator.log2 - 53 + 53)
  rw [lastPlace]
  generalize guess : (numerator.log2 : Int) - denominator.log2 - 53 = low at reached ⊢
  have highest : (numerator.log2 : Int) - denominator.log2 + 1 = low + 54 := by omega
  have lowest : (numerator.log2 : Int) - denominator.log2 - 1 = low + 52 := by omega
  rw [highest] at above
  rw [lowest] at below
  split
  next high =>
    have enough := reached.mpr high
    refine ⟨le_max_right _ _, above.trans_le (zpow_two_le (by omega)), ?_⟩
    rcases le_or_gt (low + 1) (-1074) with small | large
    · exact .inl (max_eq_right small)
    · rw [max_eq_left large.le]
      exact .inr (by rwa [add_assoc])
  next small =>
    have less := lt_of_not_ge fun enough => small (reached.mp enough)
    refine ⟨le_max_right _ _, less.trans_le (zpow_two_le (by omega)), ?_⟩
    rcases le_or_gt low (-1074) with small | large
    · exact .inl (max_eq_right small)
    · rw [max_eq_left large.le]
      exact .inr below

/-- The nearest natural number to a ratio; of two as near the even one. -/
theorem roundedQuotient_eq {numerator denominator nearest : Nat} (positive : 0 < denominator)
    (low : 2 * nearest * denominator ≤ 2 * numerator + denominator)
    (high : 2 * numerator ≤ 2 * nearest * denominator + denominator)
    (tie : 2 * nearest * denominator = 2 * numerator + denominator ∨
      2 * numerator = 2 * nearest * denominator + denominator → nearest % 2 = 0) :
    roundedQuotient numerator denominator = nearest := by
  have parts : numerator / denominator * denominator + numerator % denominator = numerator :=
    Nat.div_add_mod' numerator denominator
  have inside : numerator % denominator < denominator := Nat.mod_lt _ positive
  rw [roundedQuotient]
  generalize numerator / denominator = quotient at parts ⊢
  generalize numerator % denominator = left at parts inside ⊢
  have lower : quotient ≤ nearest := by
    have scaled : 2 * quotient * denominator < (2 * nearest + 2) * denominator := by
      simp only [Nat.add_mul, Nat.mul_assoc] at parts high ⊢
      omega
    have := Nat.lt_of_mul_lt_mul_right scaled
    omega
  have upper : nearest ≤ quotient + 1 := by
    have scaled : 2 * nearest * denominator < (2 * quotient + 3) * denominator := by
      simp only [Nat.add_mul, Nat.mul_assoc] at parts low ⊢
      omega
    have := Nat.lt_of_mul_lt_mul_right scaled
    omega
  rw [Nat.mul_assoc] at low high tie
  obtain rfl | rfl : nearest = quotient ∨ nearest = quotient + 1 := by omega
  · split <;> omega
  · rw [Nat.add_mul] at low high tie
    split <;> omega

private theorem roundedQuotient_scaled {numerator denominator nearest : Nat} (positive : 0 < denominator) (place : Int)
    (low : (nearest - 1 / 2) * (2 : ℚ) ^ place ≤ numerator / denominator)
    (high : (numerator : ℚ) / denominator ≤ (nearest + 1 / 2) * 2 ^ place)
    (tie : (numerator : ℚ) / denominator = (nearest - 1 / 2) * 2 ^ place ∨
      (numerator : ℚ) / denominator = (nearest + 1 / 2) * 2 ^ place → nearest % 2 = 0) :
    roundedQuotient (numerator * 2 ^ (-place).toNat) (denominator * 2 ^ place.toNat) = nearest := by
  have scaled (ratio : ℚ) : ratio * 2 ^ place = ratio * 2 ^ place.toNat / 2 ^ (-place).toNat := by
    rw [zpow_eq_div (by norm_num), mul_div_assoc]
  have divides : (0 : ℚ) < denominator := by exact_mod_cast positive
  have shrinks : (0 : ℚ) < 2 ^ (-place).toNat := by positivity
  rw [scaled, div_le_div_iff₀ shrinks divides] at low
  rw [scaled, div_le_div_iff₀ divides shrinks] at high
  rw [scaled, scaled, div_eq_div_iff divides.ne' shrinks.ne', div_eq_div_iff divides.ne' shrinks.ne'] at tie
  have wide : 0 < denominator * 2 ^ place.toNat := Nat.mul_pos positive (Nat.pow_pos (by decide))
  refine roundedQuotient_eq wide ?_ ?_ fun ends => tie (ends.imp (fun same => ?_) fun same => ?_)
  · suffices (2 * nearest * (denominator * 2 ^ place.toNat) : ℚ) ≤
        2 * (numerator * 2 ^ (-place).toNat) + denominator * 2 ^ place.toNat by exact_mod_cast this
    linarith
  · suffices (2 * (numerator * 2 ^ (-place).toNat) : ℚ) ≤
        2 * nearest * (denominator * 2 ^ place.toNat) + denominator * 2 ^ place.toNat by exact_mod_cast this
    linarith
  · have same : (2 * nearest * (denominator * 2 ^ place.toNat) : ℚ) =
        2 * (numerator * 2 ^ (-place).toNat) + denominator * 2 ^ place.toNat := by exact_mod_cast same
    linarith
  · have same : (2 * (numerator * 2 ^ (-place).toNat) : ℚ) =
        2 * nearest * (denominator * 2 ^ place.toNat) + denominator * 2 ^ place.toNat := by exact_mod_cast same
    linarith

structure Regular (number : Binary64) : Prop where
  finite : number.isFinite = true
  nonzero : number.isZero = false

namespace Regular

variable {number : Binary64} (regular : Regular number)

include regular

private theorem magnitude_pos : 0 < number.magnitude := by
  have nonzero := regular.nonzero
  rw [isZero, decide_eq_false_iff_not] at nonzero
  exact Nat.pos_of_ne_zero nonzero

theorem magnitude_lt : number.magnitude < infiniteMagnitude := of_decide_eq_true regular.finite

omit regular in
private theorem fractions_eq : fractions = 4503599627370496 := rfl

/-- Near zero all numbers have one exponent, and otherwise the significand fills its fifty-three places. -/
theorem parts : number.magnitude = (number.exponent + 1074).toNat * fractions + number.significand ∧
    0 < number.significand ∧ number.significand < 2 * fractions ∧ -1074 ≤ number.exponent ∧ number.exponent ≤ 971 ∧
    (number.exponent = -1074 ∨ fractions ≤ number.significand) := by
  have positive := regular.magnitude_pos
  have bounded := regular.magnitude_lt
  have limit : infiniteMagnitude = 2047 * fractions := rfl
  have size := fractions_eq
  have division := Nat.div_add_mod' number.magnitude fractions
  have inside : number.magnitude % fractions < fractions := Nat.mod_lt _ (by decide)
  have few : number.magnitude / fractions < 2047 := by
    rw [limit] at bounded
    exact Nat.div_lt_of_lt_mul (by rwa [Nat.mul_comm])
  rw [significand, exponent]
  split
  next small =>
    rw [Nat.mod_eq_of_lt small, Nat.div_eq_of_lt small]
    refine ⟨?_, positive, by omega, by decide, by decide, .inl (by decide)⟩
    change number.magnitude = 0 * fractions + number.magnitude
    omega
  next large =>
    have some : 1 ≤ number.magnitude / fractions := Nat.div_pos (Nat.le_of_not_lt large) (by decide)
    rw [max_eq_left some]
    refine ⟨?_, by omega, by omega, by omega, by omega, .inr (by omega)⟩
    have places : ((number.magnitude / fractions : Nat) - 1075 + 1074 : Int).toNat =
        number.magnitude / fractions - 1 := by omega
    rw [places, Nat.sub_mul]
    have one : fractions ≤ number.magnitude / fractions * fractions := Nat.le_mul_of_pos_left _ some
    omega

/-- The number below a power of two is nearer than the one above it. -/
theorem narrow_iff : (number.magnitude % fractions = 0 ∧ 2 * fractions ≤ number.magnitude) ↔
    number.significand = fractions ∧ -1074 < number.exponent := by
  obtain ⟨whole, positive, bounded, low, -, -⟩ := regular.parts
  have left : number.magnitude % fractions = number.significand % fractions := by
    rw [whole, Nat.mul_add_mod_self_right]
  rw [left]
  constructor
  · rintro ⟨full, large⟩
    have one : number.significand = fractions := by
      obtain ⟨times, same⟩ := Nat.dvd_of_mod_eq_zero full
      obtain rfl : times = 1 := by
        have size := fractions_eq
        rw [size] at same bounded
        omega
      rw [same, Nat.mul_one]
    refine ⟨one, ?_⟩
    by_contra none
    have zero : (number.exponent + 1074).toNat = 0 := by omega
    rw [whole, zero, one] at large
    exact absurd large (by decide)
  · rintro ⟨one, high⟩
    refine ⟨by rw [one, Nat.mod_self], ?_⟩
    have some : 1 ≤ (number.exponent + 1074).toNat := by omega
    have scaled := Nat.mul_le_mul_right fractions some
    rw [whole, one]
    omega

end Regular

/-- A ratio that rounds to a number. The ends of the stretch belong to it if the significand is even. -/
def Rounds (number : Binary64) (ratio : ℚ) : Prop :=
  if number.basin.closed then
    number.basin.low * 2 ^ (number.exponent - 2) ≤ ratio ∧ ratio ≤ number.basin.high * 2 ^ (number.exponent - 2)
  else number.basin.low * 2 ^ (number.exponent - 2) < ratio ∧ ratio < number.basin.high * 2 ^ (number.exponent - 2)

/-- How far the stretch goes, in last places of the number. -/
theorem Rounds.bounds {number : Binary64} (regular : Regular number) {ratio : ℚ} (rounds : number.Rounds ratio) :
    (number.significand - 1 / 2) * 2 ^ number.exponent ≤ ratio ∧
      ratio ≤ (number.significand + 1 / 2) * 2 ^ number.exponent ∧
      (ratio = (number.significand - 1 / 2) * 2 ^ number.exponent ∨
        ratio = (number.significand + 1 / 2) * 2 ^ number.exponent → number.significand % 2 = 0) ∧
      (number.significand = fractions ∧ -1074 < number.exponent →
        (number.significand - 1 / 4) * 2 ^ number.exponent ≤ ratio) := by
  obtain ⟨-, positive, -, -, -, -⟩ := regular.parts
  have unit : (2 : ℚ) ^ (number.exponent - 2) = 2 ^ number.exponent / 4 := by
    rw [zpow_sub₀ (by norm_num)]
    norm_num
  have wide := zpow_two_pos number.exponent
  have high : (number.basin.high : ℚ) = 4 * number.significand + 2 := by
    rw [basin]
    push_cast
    rfl
  have low : (number.basin.low : ℚ) =
      4 * number.significand - if number.significand = fractions ∧ -1074 < number.exponent then 1 else 2 := by
    rw [basin, Nat.cast_sub (by split <;> omega), if_congr regular.narrow_iff rfl rfl]
    push_cast
    rfl
  rw [Rounds, unit, high, low] at rounds
  have closed : number.basin.closed = true ↔ number.significand % 2 = 0 := decide_eq_true_iff
  split at rounds
  next even =>
    obtain ⟨below, above⟩ := rounds
    refine ⟨?_, by linarith, fun _ => closed.mp even, fun narrow => ?_⟩
    · split at below <;> linarith
    · rw [if_pos narrow] at below
      linarith
  next odd =>
    obtain ⟨below, above⟩ := rounds
    have inside : (number.significand - 1 / 2) * 2 ^ number.exponent < ratio := by
      split at below <;> linarith
    refine ⟨inside.le, by linarith, ?_, fun narrow => ?_⟩
    · rintro (same | same) <;> linarith
    · rw [if_pos narrow] at below
      linarith

namespace Rounds

variable {number : Binary64} (regular : Regular number) {ratio : ℚ} (rounds : number.Rounds ratio)

include regular rounds

/-- Half of the least number is the least ratio that does not round to zero. -/
theorem ge : (2 : ℚ) ^ (-1075 : Int) ≤ ratio := by
  obtain ⟨-, positive, -, lowest, -, -⟩ := regular.parts
  obtain ⟨low, -, -, -⟩ := rounds.bounds regular
  have least : (1 : ℚ) ≤ number.significand := by exact_mod_cast positive
  calc (2 : ℚ) ^ (-1075 : Int) = 1 / 2 * 2 ^ (-1074 : Int) := by
        rw [show (-1075 : Int) = -1 + -1074 from rfl, zpow_two_add]
        norm_num
    _ ≤ (number.significand - 1 / 2) * 2 ^ number.exponent :=
        mul_le_mul (by linarith) (zpow_two_le lowest) (zpow_two_pos _).le (by linarith)
    _ ≤ ratio := low

theorem pos : 0 < ratio := (zpow_two_pos _).trans_le (rounds.ge regular)

theorem lt : ratio < 2 ^ (1024 : Int) := by
  obtain ⟨-, -, bounded, -, highest, -⟩ := regular.parts
  obtain ⟨-, high, -, -⟩ := rounds.bounds regular
  have most : (number.significand : ℚ) + 1 ≤ 2 ^ 53 := by exact_mod_cast bounded
  calc ratio ≤ (number.significand + 1 / 2) * 2 ^ number.exponent := high
    _ < 2 ^ 53 * 2 ^ number.exponent := mul_lt_mul_of_pos_right (by linarith) (zpow_two_pos _)
    _ ≤ 2 ^ 53 * 2 ^ (971 : Int) := mul_le_mul_of_nonneg_left (zpow_two_le highest) (by norm_num)
    _ = 2 ^ (1024 : Int) := (zpow_two_places 971 53).symm

end Rounds

private theorem lastPlace_le_exponent {number : Binary64} (regular : Regular number) {numerator denominator : Nat}
    (some : 0 < numerator) (positive : 0 < denominator) (rounds : number.Rounds (numerator / denominator)) :
    lastPlace numerator denominator ≤ number.exponent := by
  obtain ⟨-, -, bounded, lowest, -, -⟩ := regular.parts
  obtain ⟨-, high, -, -⟩ := rounds.bounds regular
  obtain ⟨-, -, same | reaches⟩ := lastPlace_spec some positive
  · exact same ▸ lowest
  · have most : (number.significand : ℚ) + 1 ≤ 2 ^ 53 := by exact_mod_cast bounded
    have less : (2 : ℚ) ^ (lastPlace numerator denominator + 52) < 2 ^ (number.exponent + 53) := by
      calc (2 : ℚ) ^ (lastPlace numerator denominator + 52)
          ≤ (number.significand + 1 / 2) * 2 ^ number.exponent := reaches.trans high
        _ < 2 ^ 53 * 2 ^ number.exponent := mul_lt_mul_of_pos_right (by linarith) (zpow_two_pos _)
        _ = 2 ^ (number.exponent + 53) := (zpow_two_places number.exponent 53).symm
    have := lt_of_zpow_two_lt less
    omega

/-- The last place that is kept of a ratio is that of the number, or the one below if the number is a power of two
and the ratio is less. -/
theorem lastPlace_of_rounds {number : Binary64} (regular : Regular number) {numerator denominator : Nat}
    (some : 0 < numerator) (positive : 0 < denominator) (rounds : number.Rounds (numerator / denominator)) :
    lastPlace numerator denominator = number.exponent ∨
      number.significand = fractions ∧ -1074 < number.exponent ∧
        lastPlace numerator denominator = number.exponent - 1 ∧
        (numerator : ℚ) / denominator < number.significand * 2 ^ number.exponent := by
  obtain ⟨-, -, -, -, -, full⟩ := regular.parts
  obtain ⟨low, -, -, narrow⟩ := rounds.bounds regular
  obtain ⟨above, below, -⟩ := lastPlace_spec some positive
  have notAbove := lastPlace_le_exponent regular some positive rounds
  generalize lastPlace numerator denominator = place at above below notAbove ⊢
  generalize (numerator : ℚ) / denominator = ratio at low narrow below
  have wide := zpow_two_pos number.exponent
  by_cases lowestPlace : number.exponent = -1074
  · exact .inl (le_antisymm notAbove (lowestPlace ▸ above))
  have filled := full.resolve_left lowestPlace
  rcases Nat.lt_or_ge fractions number.significand with more | only
  · have least : (2 : ℚ) ^ 52 + 1 ≤ number.significand := by exact_mod_cast more
    have less : (2 : ℚ) ^ (number.exponent + 52) < 2 ^ (place + 53) := by
      calc (2 : ℚ) ^ (number.exponent + 52) = 2 ^ 52 * 2 ^ number.exponent := zpow_two_places number.exponent 52
        _ ≤ (number.significand - 1 / 2) * 2 ^ number.exponent := mul_le_mul_of_nonneg_right (by linarith) wide.le
        _ < _ := low.trans_lt below
    have := lt_of_zpow_two_lt less
    exact .inl (by omega)
  · have one : number.significand = fractions := le_antisymm only filled
    have higher : -1074 < number.exponent := by omega
    have near := narrow ⟨one, higher⟩
    have size : (number.significand : ℚ) = 2 ^ 52 := by
      rw [one]
      norm_cast
    have half : (2 : ℚ) ^ 51 ≤ number.significand - 1 / 4 := by
      rw [size]
      norm_num
    have less : (2 : ℚ) ^ (number.exponent + 51) < 2 ^ (place + 53) := by
      calc (2 : ℚ) ^ (number.exponent + 51) = 2 ^ 51 * 2 ^ number.exponent := zpow_two_places number.exponent 51
        _ ≤ (number.significand - 1 / 4) * 2 ^ number.exponent := mul_le_mul_of_nonneg_right half wide.le
        _ < _ := near.trans_lt below
    have notBelow := lt_of_zpow_two_lt less
    obtain same | less : place = number.exponent ∨ place = number.exponent - 1 := by omega
    · exact .inl same
    · refine .inr ⟨one, higher, less, ?_⟩
      have top : number.exponent - 1 + 53 = number.exponent + 52 := by omega
      rw [less, top] at below
      rw [size]
      exact below.trans_eq (zpow_two_places number.exponent 52)

theorem ofMagnitude_magnitude (number : Binary64) : ofMagnitude number.negative number.magnitude = number := by
  obtain ⟨bits⟩ := number
  have small : bits.toNat < 2 * signWeight := bits.toNat_lt
  have weight : signWeight = 9223372036854775808 := rfl
  rw [ofMagnitude, negative, magnitude]
  congr 1
  rw [← UInt64.toNat_inj, UInt64.toNat_ofNat']
  simp only [decide_eq_true_eq, weight] at small ⊢
  split <;> omega

/-- Every ratio of the stretch is rounded to the number. -/
theorem ofRatio_of_rounds {number : Binary64} (regular : Regular number) {numerator denominator : Nat}
    (positive : 0 < denominator) (rounds : number.Rounds (numerator / denominator)) :
    ofRatio number.negative numerator denominator = number := by
  obtain ⟨whole, -, -, -, -, -⟩ := regular.parts
  obtain ⟨low, high, tie, narrow⟩ := rounds.bounds regular
  have wide := zpow_two_pos number.exponent
  have nonzero : 0 < numerator := by
    apply Nat.pos_of_ne_zero
    rintro rfl
    have above := rounds.pos regular
    rw [Nat.cast_zero, zero_div] at above
    exact lt_irrefl 0 above
  suffices same : (lastPlace numerator denominator + 1074).toNat * fractions +
      roundedQuotient (numerator * 2 ^ (-lastPlace numerator denominator).toNat)
        (denominator * 2 ^ (lastPlace numerator denominator).toNat) = number.magnitude by
    have finite : min number.magnitude infiniteMagnitude = number.magnitude := min_eq_left regular.magnitude_lt.le
    rw [ofRatio, if_neg nonzero.ne']
    exact (congrArg (fun value => ofMagnitude number.negative (min value infiniteMagnitude)) same).trans
      (by rw [finite, ofMagnitude_magnitude])
  rcases lastPlace_of_rounds regular nonzero positive rounds with place | ⟨one, higher, place, less⟩
  · rw [place, roundedQuotient_scaled positive number.exponent low high tie, whole]
  · have half : (2 : ℚ) ^ (number.exponent - 1) = 2 ^ number.exponent / 2 := by
      rw [zpow_sub₀ (by norm_num)]
      norm_num
    have size : ((2 * fractions : Nat) : ℚ) = 2 * number.significand := by
      rw [one]
      push_cast
      rfl
    have near := narrow ⟨one, higher⟩
    have rounded : roundedQuotient (numerator * 2 ^ (-(number.exponent - 1)).toNat)
        (denominator * 2 ^ (number.exponent - 1).toNat) = 2 * fractions := by
      refine roundedQuotient_scaled positive (number.exponent - 1) ?_ ?_ fun _ => by decide
      · rw [half, size]
        linarith
      · rw [half, size]
        linarith
    rw [place, rounded, whole, one]
    have next : (number.exponent + 1074).toNat = (number.exponent - 1 + 1074).toNat + 1 := by omega
    rw [next]
    ring

end IntentRollout.Binary64
