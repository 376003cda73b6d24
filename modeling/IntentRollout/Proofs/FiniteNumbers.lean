import Mathlib.Algebra.Group.Int.Defs
import Mathlib.Algebra.Group.Nat.Defs
import IntentRollout.Proofs.WrittenNumbers

/-! What a written number can come to. Integers stay within 64 bits, and what is not an integer is finite: a number
that is scaled down starts from one of 64 bits and never grows. -/

namespace IntentRollout

namespace Binary64

private theorem magnitude_ofMagnitude (negative : Bool) {magnitude : Nat} (small : magnitude < signWeight) :
    (ofMagnitude negative magnitude).magnitude = magnitude := by
  have weight : signWeight = 9223372036854775808 := rfl
  rw [weight] at small
  rw [Binary64.magnitude, ofMagnitude, UInt64.toNat_ofNat', weight]
  split <;> omega

private theorem isFinite_iff {number : Binary64} : number.isFinite = true ↔ number.magnitude < 2047 * fractions := by
  rw [isFinite, decide_eq_true_eq, infiniteMagnitude]

private theorem isFinite_neg {number : Binary64} (finite : number.isFinite = true) : number.neg.isFinite = true := by
  have small : number.magnitude < signWeight := Nat.mod_lt _ (by decide)
  rwa [isFinite_iff, neg, magnitude_ofMagnitude _ small, ← isFinite_iff]

/-- The magnitude of a finite number is at most some power of two. -/
def AtMost (power : Nat) (number : Binary64) : Prop := number.ratio.1 ≤ 2 ^ power * number.ratio.2

private theorem ratio_pos (number : Binary64) : 0 < number.ratio.2 := Nat.pow_pos (by decide)

private theorem lastPlace_bounds {numerator denominator power : Nat} (some : numerator ≠ 0)
    (bounded : numerator ≤ 2 ^ power * denominator) :
    (numerator.log2 : Int) - denominator.log2 - 53 ≤ lastPlace numerator denominator ∧
      lastPlace numerator denominator + 1074 ≤ power + 1022 := by
  have below : numerator.log2 ≤ power + denominator.log2 := by
    have above := Nat.lt_log2_self (n := denominator)
    have : numerator < 2 ^ (power + (denominator.log2 + 1)) := by
      rw [Nat.pow_add]
      exact Nat.lt_of_le_of_lt bounded (Nat.mul_lt_mul_of_pos_left above (Nat.pow_pos (by decide)))
    have := (Nat.log2_lt some).mpr this
    omega
  simp only [lastPlace]
  split <;> omega

private theorem roundedQuotient_le {numerator denominator bound : Nat} (small : numerator < bound * denominator) :
    roundedQuotient numerator denominator ≤ bound := by
  have quotient : numerator / denominator < bound := Nat.div_lt_of_lt_mul (Nat.mul_comm _ _ ▸ small)
  simp only [roundedQuotient]
  split <;> omega

private theorem scaled_lt {numerator denominator : Nat} {place : Int} (positive : denominator ≠ 0)
    (low : (numerator.log2 : Int) - denominator.log2 - 53 ≤ place) :
    numerator * 2 ^ (-place).toNat < 2 ^ 54 * (denominator * 2 ^ place.toNat) := by
  calc numerator * 2 ^ (-place).toNat
      < 2 ^ (numerator.log2 + 1) * 2 ^ (-place).toNat :=
        Nat.mul_lt_mul_of_pos_right Nat.lt_log2_self (Nat.pow_pos (by decide))
    _ = 2 ^ (numerator.log2 + 1 + (-place).toNat) := (Nat.pow_add _ _ _).symm
    _ ≤ 2 ^ (54 + (denominator.log2 + place.toNat)) := Nat.pow_le_pow_right (by decide) (by omega)
    _ = 2 ^ 54 * (2 ^ denominator.log2 * 2 ^ place.toNat) := by rw [Nat.pow_add, Nat.pow_add]
    _ ≤ 2 ^ 54 * (denominator * 2 ^ place.toNat) :=
        Nat.mul_le_mul_left _ (Nat.mul_le_mul_right _ (Nat.log2_self_le positive))

/-- Rounding takes a quotient at most four powers of two up. -/
theorem magnitude_ofRatio_le (negative : Bool) {numerator denominator power : Nat} (positive : 0 < denominator)
    (bounded : numerator ≤ 2 ^ power * denominator) :
    (ofRatio negative numerator denominator).magnitude ≤ (power + 1026) * fractions := by
  by_cases none : numerator = 0
  · rw [ofRatio, if_pos none, zero, magnitude_ofMagnitude _ (by decide)]
    exact Nat.zero_le _
  · obtain ⟨low, high⟩ := lastPlace_bounds none bounded
    have rounded := roundedQuotient_le (scaled_lt (Nat.ne_of_gt positive) low)
    have place : (lastPlace numerator denominator + 1074).toNat ≤ power + 1022 := by omega
    have scaled := Nat.mul_le_mul_right fractions place
    rw [ofRatio, if_neg none, magnitude_ofMagnitude _ (Nat.lt_of_le_of_lt (Nat.min_le_right _ _) (by decide))]
    refine Nat.le_trans (Nat.min_le_left _ _) ?_
    have four : 2 ^ 54 = 4 * fractions := rfl
    rw [four] at rounded
    rw [Nat.add_mul] at scaled ⊢
    exact Nat.le_trans (Nat.add_le_add scaled rounded) (by omega)

private theorem atMost_of_magnitude {number : Binary64} {places : Nat}
    (bounded : number.magnitude ≤ (places + 1022) * fractions) :
    AtMost places number := by
  have significand : number.significand < 2 ^ 53 := by
    have fraction : number.magnitude % fractions < fractions := Nat.mod_lt _ (by decide)
    have twice : 2 ^ 53 = 2 * fractions := rfl
    have cases : number.significand = number.magnitude % fractions ∨
        number.significand = fractions + number.magnitude % fractions := ite_eq_or_eq _ _ _
    omega
  have exponent : number.exponent + 53 ≤ places := by
    have : number.magnitude / fractions ≤ places + 1022 :=
      Nat.div_le_of_le_mul (Nat.mul_comm _ _ ▸ bounded)
    rw [Binary64.exponent]
    omega
  calc number.significand * 2 ^ number.exponent.toNat
      ≤ 2 ^ 53 * 2 ^ number.exponent.toNat := Nat.mul_le_mul_right _ (Nat.le_of_lt significand)
    _ = 2 ^ (53 + number.exponent.toNat) := (Nat.pow_add _ _ _).symm
    _ ≤ 2 ^ (places + (-number.exponent).toNat) := Nat.pow_le_pow_right (by decide) (by omega)
    _ = 2 ^ places * 2 ^ (-number.exponent).toNat := Nat.pow_add _ _ _

private theorem isFinite_ofRatio (negative : Bool) {numerator denominator power : Nat} (positive : 0 < denominator)
    (bounded : numerator ≤ 2 ^ power * denominator) (small : power < 1021) :
    (ofRatio negative numerator denominator).isFinite = true := by
  rw [isFinite_iff]
  refine Nat.lt_of_le_of_lt (magnitude_ofRatio_le negative positive bounded) ?_
  exact Nat.mul_lt_mul_of_pos_right (by omega) (by decide)

private theorem atMost_ofRatio (negative : Bool) {numerator denominator power : Nat} (positive : 0 < denominator)
    (bounded : numerator ≤ 2 ^ power * denominator) : AtMost (power + 4) (ofRatio negative numerator denominator) :=
  atMost_of_magnitude (magnitude_ofRatio_le negative positive bounded)

/-- A quotient is smaller by as much as its divisor is large. -/
theorem div_bounds {value divisor : Binary64} {power more : Nat} (bounded : AtMost (power + more) value)
    (large : 2 ^ more * divisor.ratio.2 ≤ divisor.ratio.1) :
    0 < value.ratio.2 * divisor.ratio.1 ∧
      value.ratio.1 * divisor.ratio.2 ≤ 2 ^ power * (value.ratio.2 * divisor.ratio.1) := by
  constructor
  · exact Nat.mul_pos (ratio_pos value)
      (Nat.lt_of_lt_of_le (Nat.mul_pos (Nat.pow_pos (by decide)) (ratio_pos divisor)) large)
  · calc value.ratio.1 * divisor.ratio.2
        ≤ 2 ^ (power + more) * value.ratio.2 * divisor.ratio.2 := Nat.mul_le_mul_right _ bounded
      _ = 2 ^ power * (value.ratio.2 * (2 ^ more * divisor.ratio.2)) := by rw [Nat.pow_add]; ac_rfl
      _ ≤ 2 ^ power * (value.ratio.2 * divisor.ratio.1) := Nat.mul_le_mul_left _ (Nat.mul_le_mul_left _ large)

/-- The powers of ten that are divided by are not below one. -/
theorem le_tenPower : ∀ places < 309,
    2 ^ 0 * (ofDecimal false 1 (places : Nat)).ratio.2 ≤ (ofDecimal false 1 (places : Nat)).ratio.1 := by
  decide +kernel

private theorem le_longestTenPower : 2 ^ 4 * (ofDecimal false 1 308).ratio.2 ≤ (ofDecimal false 1 308).ratio.1 := by
  decide +kernel

end Binary64

namespace Json

open Binary64

private theorem isFinite_scaleDown (value : Binary64) (places : Nat) (bounded : AtMost 100 value) :
    (scaleDown value places).isFinite = true := by
  induction value, places using scaleDown.induct with
  | case1 value places short =>
    rw [scaleDown, if_pos short]
    obtain ⟨positive, below⟩ := div_bounds bounded (le_tenPower places (Nat.lt_succ_of_le short))
    exact isFinite_ofRatio _ positive below (by decide)
  | case2 value places long zero =>
    rw [scaleDown, if_neg long, if_pos zero, isFinite_iff, of_decide_eq_true zero]
    decide
  | case3 value places long some ih =>
    rw [scaleDown, if_neg long, if_neg some]
    have wide : AtMost (96 + 4) value := bounded
    obtain ⟨positive, below⟩ := div_bounds wide le_longestTenPower
    exact ih (atMost_ofRatio _ positive below)

private theorem isFinite_scaled? {significand : Nat} (fits : significand < UInt64.size) {power : Int} {value : Binary64}
    (scaled : scaled? significand power = some value) : value.isFinite = true := by
  have small : significand ≤ 2 ^ 64 * 1 := Nat.le_of_lt fits
  have bounded : AtMost 100 (ofNat significand) := by
    have tight : AtMost (64 + 4) (ofNat significand) := atMost_ofRatio false Nat.one_pos small
    exact Nat.le_trans tight (Nat.mul_le_mul_right _ (Nat.pow_le_pow_right (by decide) (by decide)))
  simp only [scaled?] at scaled
  split at scaled
  · cases scaled
    exact isFinite_scaleDown _ _ bounded
  · split at scaled
    · split at scaled
      next finite =>
        cases scaled
        exact finite
      · cases scaled
    · split at scaled
      · cases scaled
        exact isFinite_ofRatio false Nat.one_pos small (by decide)
      · cases scaled

def Number.Ranged : Number → Prop
  | .integer value => -2 ^ 63 ≤ value ∧ value < 2 ^ 64
  | .float value => value.isFinite = true

variable {limit significand count : Nat} {power : Int} {negative : Bool} {text left : List Char} {value : Number}

private theorem ranged_signed {number : Binary64} (finite : number.isFinite = true) :
    (signed negative number).Ranged := by
  cases negative with
  | false => exact finite
  | true => exact isFinite_neg finite

private theorem ranged_wholeNumber (fits : significand < UInt64.size) : (wholeNumber negative significand).Ranged := by
  have size : UInt64.size = 2 ^ 64 := rfl
  cases negative with
  | false =>
    change -2 ^ 63 ≤ (significand : Int) ∧ (significand : Int) < 2 ^ 64
    omega
  | true =>
    rw [wholeNumber, if_pos rfl]
    split
    next inside =>
      have limit : Nat.pow 2 63 = 2 ^ 63 := rfl
      change -2 ^ 63 ≤ -(significand : Int) ∧ -(significand : Int) < 2 ^ 64
      omega
    · have small : significand ≤ 2 ^ 64 * 1 := Nat.le_of_lt fits
      exact isFinite_neg (isFinite_ofRatio false Nat.one_pos small (by decide))

private theorem takeDigits_lt (fits : significand < limit) (count : Nat) (text : List Char) :
    (takeDigits limit significand count text).1 < limit := by
  induction text generalizing significand count with
  | nil => exact fits
  | cons character text ih =>
    rw [takeDigits]
    split
    · exact fits
    · split
      next room => exact ih room _
      · exact fits

private theorem ranged_scaledNumber (fits : significand < UInt64.size)
    (done : scaledNumber negative significand power text = .ok (value, left)) : value.Ranged := by
  rw [scaledNumber] at done
  split at done
  next scaled =>
    cases done
    exact ranged_signed (isFinite_scaled? fits scaled)
  · cases done

private theorem ranged_readPower (fits : significand < UInt64.size)
    (done : readPower negative significand power text = .ok (value, left)) : value.Ranged := by
  rw [readPower_eq, readPowerDigits.eq_def] at done
  split at done
  · cases done
  · split at done
    · simp only at done
      split at done
      · split at done
        · cases done
        · cases done
          exact ranged_signed (by decide)
      · exact ranged_scaledNumber fits done
    · cases done

private theorem ranged_readPowerMark (fits : significand < UInt64.size)
    (done : readPowerMark negative significand power text = .ok (value, left)) : value.Ranged := by
  rw [readPowerMark.eq_def] at done
  split at done
  · exact ranged_readPower fits done
  · exact ranged_readPower fits done
  · exact ranged_scaledNumber fits done

private theorem ranged_readFraction (fits : significand < UInt64.size)
    (done : readFraction negative significand power text = .ok (value, left)) : value.Ranged := by
  have still := takeDigits_lt fits 0 text
  simp only [readFraction_eq] at done
  split at done
  · exact ranged_readPowerMark still done
  · split at done
    · split at done <;> cases done
    · exact ranged_readPowerMark still done

private theorem ranged_readAfterDigits (fits : significand < UInt64.size) {dropped : List Char}
    (done : readAfterDigits negative significand dropped text = .ok (value, left)) : value.Ranged := by
  rw [readAfterDigits.eq_def] at done
  split at done
  · exact ranged_readFraction fits done
  · exact ranged_readPower fits done
  · exact ranged_readPower fits done
  · split at done
    · cases done
      exact ranged_wholeNumber fits
    · exact ranged_scaledNumber fits done

theorem ranged_readNumber (done : readNumber negative text = .ok (value, left)) : value.Ranged := by
  cases text with
  | nil => cases done
  | cons first more =>
    rw [readNumber_cons] at done
    split at done
    · cases done
    · split at done
      · exact ranged_readAfterDigits (takeDigits_lt (by decide) 0 (first :: more)) done
      · cases done

end Json

end IntentRollout
