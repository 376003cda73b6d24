import IntentRollout.Proofs.NearestNumbers

/-! Decimals that round to a number. The search for the shortest one ends, since a grid of a quarter of the last place
has one, and so the number comes back from the digits that were found. -/

namespace IntentRollout

def Decimal.value (decimal : Decimal) : ℚ := decimal.coefficient * 10 ^ decimal.power

namespace Binary64

private theorem le_grid_iff (first second : Nat) (places power : Int) : (first : ℚ) * 2 ^ places ≤ second * 10 ^ power ↔
    first * (2 ^ places.toNat * 10 ^ (-power).toNat) ≤ second * (10 ^ power.toNat * 2 ^ (-places).toNat) := by
  rw [zpow_eq_div (by norm_num), zpow_eq_div (by norm_num : (10 : ℚ) ≠ 0), ← mul_div_assoc, ← mul_div_assoc,
    div_le_div_iff₀ (by positivity) (by positivity), mul_assoc, mul_assoc]
  exact_mod_cast Iff.rfl

private theorem grid_le_iff (first second : Nat) (places power : Int) : (second : ℚ) * 10 ^ power ≤ first * 2 ^ places ↔
    second * (10 ^ power.toNat * 2 ^ (-places).toNat) ≤ first * (2 ^ places.toNat * 10 ^ (-power).toNat) := by
  rw [zpow_eq_div (by norm_num), zpow_eq_div (by norm_num : (2 : ℚ) ≠ 0), ← mul_div_assoc, ← mul_div_assoc,
    div_le_div_iff₀ (by positivity) (by positivity), mul_assoc, mul_assoc]
  exact_mod_cast Iff.rfl

private theorem lt_grid_iff (first second : Nat) (places power : Int) : (first : ℚ) * 2 ^ places < second * 10 ^ power ↔
    first * (2 ^ places.toNat * 10 ^ (-power).toNat) < second * (10 ^ power.toNat * 2 ^ (-places).toNat) := by
  rw [← not_le, grid_le_iff, not_le]

private theorem grid_lt_iff (first second : Nat) (places power : Int) : (second : ℚ) * 10 ^ power < first * 2 ^ places ↔
    second * (10 ^ power.toNat * 2 ^ (-places).toNat) < first * (2 ^ places.toNat * 10 ^ (-power).toNat) := by
  rw [← not_le, le_grid_iff, not_le]

/-- A place of the grid of a power of ten, in the unit in which grid and number are compared. -/
def gridUnit (number : Binary64) (power : Int) : Nat :=
  Nat.pow 2 (number.exponent - 2).toNat * Nat.pow 10 (-power).toNat

def gridStep (number : Binary64) (power : Int) : Nat :=
  Nat.pow 10 power.toNat * Nat.pow 2 (-(number.exponent - 2)).toNat

def below (number : Binary64) (power : Int) : Nat :=
  number.basin.middle * number.gridUnit power / number.gridStep power

def rounds (number : Binary64) (power : Int) (coefficient : Nat) : Bool :=
  if number.basin.closed then
    decide (number.basin.low * number.gridUnit power ≤ coefficient * number.gridStep power ∧
      coefficient * number.gridStep power ≤ number.basin.high * number.gridUnit power)
  else decide (number.basin.low * number.gridUnit power < coefficient * number.gridStep power ∧
    coefficient * number.gridStep power < number.basin.high * number.gridUnit power)

private theorem rounds_iff (number : Binary64) (power : Int) (coefficient : Nat) :
    number.rounds power coefficient = true ↔ number.Rounds (coefficient * 10 ^ power) := by
  rw [rounds, Rounds]
  split
  · rw [decide_eq_true_eq, le_grid_iff, grid_le_iff]
    rfl
  · rw [decide_eq_true_eq, lt_grid_iff, grid_lt_iff]
    rfl

/-- The neighbours of a number on a grid decide what is found there. -/
theorem onGrid?_eq (tie : DecimalTie) (number : Binary64) (power : Int) : ∃ upper : Bool,
    number.onGrid? tie power = match number.rounds power (number.below power),
        number.rounds power (number.below power + 1) with
      | true, true => some ⟨if upper then number.below power + 1 else number.below power, power⟩
      | true, false => some ⟨number.below power, power⟩
      | false, true => some ⟨number.below power + 1, power⟩
      | false, false => none := ⟨_, rfl⟩

private theorem onGrid?_eq_some {tie : DecimalTie} {number : Binary64} {power : Int} {decimal : Decimal}
    (found : number.onGrid? tie power = some decimal) : decimal.power = power ∧ number.Rounds decimal.value := by
  obtain ⟨upper, same⟩ := onGrid?_eq tie number power
  rw [same] at found
  split at found
  next low high =>
    cases found
    refine ⟨rfl, (rounds_iff number power _).mp ?_⟩
    dsimp only
    split
    · exact high
    · exact low
  next low _ =>
    cases found
    exact ⟨rfl, (rounds_iff number power _).mp low⟩
  next _ high =>
    cases found
    exact ⟨rfl, (rounds_iff number power _).mp high⟩
  · cases found

private theorem onGrid?_of_below (tie : DecimalTie) {number : Binary64} {power : Int}
    (low : number.Rounds (number.below power * 10 ^ power)) : (number.onGrid? tie power).isSome = true := by
  obtain ⟨upper, same⟩ := onGrid?_eq tie number power
  rw [same, (rounds_iff number power _).mpr low]
  cases number.rounds power (number.below power + 1) <;> rfl

def size (number : Binary64) : ℚ := number.significand * 2 ^ number.exponent

private theorem middle_eq (number : Binary64) :
    (number.basin.middle : ℚ) * 2 ^ (number.exponent - 2) = number.size := by
  rw [size, basin, zpow_sub₀ (by norm_num)]
  push_cast
  ring

/-- The neighbour below a number is less than a step away. -/
theorem below_bounds (number : Binary64) (power : Int) :
    (number.below power : ℚ) * 10 ^ power ≤ number.size ∧ number.size < number.below power * 10 ^ power + 10 ^ power := by
  have step : 0 < number.gridStep power :=
    Nat.mul_pos (Nat.pow_pos (by decide)) (Nat.pow_pos (by decide))
  rw [← middle_eq]
  constructor
  · rw [grid_le_iff]
    exact Nat.div_mul_le_self _ _
  · have above : (number.below power : ℚ) * 10 ^ power + 10 ^ power = (number.below power + 1 : Nat) * 10 ^ power := by
      push_cast
      ring
    rw [above, lt_grid_iff]
    exact Nat.lt_mul_of_div_lt (Nat.lt_succ_self _) step

/-- What is less than a quarter of the last place below a number rounds to it. -/
theorem rounds_of_near {number : Binary64} (regular : Regular number) {ratio : ℚ} (low : ratio ≤ number.size)
    (near : number.size < ratio + 2 ^ (number.exponent - 2)) : number.Rounds ratio := by
  obtain ⟨-, positive, -, -, -, -⟩ := regular.parts
  have wide := zpow_two_pos (number.exponent - 2)
  have least : (number.basin.low : ℚ) + 1 ≤ number.basin.middle := by
    have less : number.basin.low + 1 ≤ number.basin.middle := by
      change 4 * number.significand - _ + 1 ≤ 4 * number.significand
      split <;> omega
    exact_mod_cast less
  have most : (number.basin.middle : ℚ) + 2 = number.basin.high := by
    change ((4 * number.significand : Nat) : ℚ) + 2 = ((4 * number.significand + 2 : Nat) : ℚ)
    push_cast
    ring
  rw [← middle_eq] at low near
  have inside : number.basin.low * 2 ^ (number.exponent - 2) < ratio ∧
      ratio < number.basin.high * 2 ^ (number.exponent - 2) := by
    constructor <;> nlinarith
  rw [Rounds]
  split
  · exact ⟨inside.1.le, inside.2.le⟩
  · exact inside

private theorem shortestFrom_spec {tie : DecimalTie} {number : Binary64} {tries : Nat} {power found : Int}
    (high : found ≤ power) (low : power < found + tries) (there : (number.onGrid? tie found).isSome = true) :
    ∃ decimal, shortestFrom tie number tries power = decimal ∧ found ≤ decimal.power ∧
      number.onGrid? tie decimal.power = some decimal := by
  induction tries generalizing power with
  | zero => omega
  | succ tries ih =>
    rw [shortestFrom]
    cases here : number.onGrid? tie power with
    | some decimal =>
      have same := (onGrid?_eq_some here).1
      exact ⟨decimal, rfl, same ▸ high, same ▸ here⟩
    | none =>
      have other : found ≠ power := by
        rintro rfl
        rw [here] at there
        cases there
      exact ih (by omega) (by omega)

/-- A power of ten is below a power of two if its exponent is as much smaller. -/
theorem ten_le_two {tens twos : Int} (up : 0 ≤ tens → 10 * tens ≤ 3 * twos) (down : tens < 0 → 93 * tens ≤ 28 * twos) :
    (10 : ℚ) ^ tens ≤ 2 ^ twos := by
  have raised (base : ℚ) (power : Int) (times : Nat) : (base ^ power) ^ times = base ^ (times * power) := by
    rw [← zpow_natCast, ← zpow_mul, mul_comm]
  have swapped (base : ℚ) (power : Int) (times : Nat) : (base ^ power) ^ times = (base ^ times) ^ power := by
    rw [← zpow_natCast, ← zpow_natCast, ← zpow_mul, ← zpow_mul, mul_comm]
  rcases le_or_gt 0 tens with positive | negative
  · have cubed : ((10 : ℚ) ^ tens) ^ 3 ≤ (2 ^ twos) ^ 3 := by
      calc ((10 : ℚ) ^ tens) ^ 3 = (10 ^ 3) ^ tens := swapped 10 tens 3
        _ ≤ (2 ^ 10) ^ tens := zpow_le_zpow_left₀ positive (by norm_num) (by norm_num)
        _ = (2 ^ tens) ^ 10 := (swapped 2 tens 10).symm
        _ = 2 ^ ((10 : Nat) * tens) := raised 2 tens 10
        _ ≤ 2 ^ ((3 : Nat) * twos) := zpow_two_le (up positive)
        _ = (2 ^ twos) ^ 3 := (raised 2 twos 3).symm
    exact le_of_pow_le_pow_left₀ (by norm_num) (zpow_two_pos twos).le cubed
  · obtain ⟨places, rfl⟩ : ∃ places : Nat, tens = -places := ⟨tens.natAbs, by omega⟩
    have shrunk : (((10 : ℚ) ^ 28) ^ places)⁻¹ ≤ ((2 ^ 93) ^ places)⁻¹ :=
      inv_anti₀ (by positivity) (pow_le_pow_left₀ (by norm_num) (by norm_num) places)
    have powered : ((10 : ℚ) ^ (-places : Int)) ^ 28 ≤ (2 ^ twos) ^ 28 := by
      calc ((10 : ℚ) ^ (-places : Int)) ^ 28 = (10 ^ 28) ^ (-places : Int) := swapped 10 _ 28
        _ ≤ (2 ^ 93) ^ (-places : Int) := by simpa only [zpow_neg, zpow_natCast] using shrunk
        _ = (2 ^ (-places : Int)) ^ 93 := (swapped 2 _ 93).symm
        _ = 2 ^ ((93 : Nat) * (-places : Int)) := raised 2 _ 93
        _ ≤ 2 ^ ((28 : Nat) * twos) := zpow_two_le (down negative)
        _ = (2 ^ twos) ^ 28 := (raised 2 twos 28).symm
    exact le_of_pow_le_pow_left₀ (by norm_num) (zpow_two_pos twos).le powered

def leading (number : Binary64) : Int := ((number.significand.log2 : Int) + number.exponent) * 30103 / 100000

private theorem shortest_eq (tie : DecimalTie) (number : Binary64) :
    number.shortest tie = shortestFrom tie number 21 (number.leading + 2) := rfl

private theorem log2_significand {number : Binary64} (regular : Regular number) : number.significand.log2 < 53 := by
  obtain ⟨-, positive, bounded, -, -, -⟩ := regular.parts
  exact (Nat.log2_lt (Nat.ne_of_gt positive)).mpr bounded

/-- The finest grid that is tried has a step of at most a quarter of the last place. -/
theorem finest_step {number : Binary64} (regular : Regular number) :
    (10 : ℚ) ^ (number.leading - 18) ≤ 2 ^ (number.exponent - 2) := by
  obtain ⟨-, -, -, low, high, -⟩ := regular.parts
  have few := log2_significand regular
  have floor : number.leading * 100000 ≤ ((number.significand.log2 : Int) + number.exponent) * 30103 :=
    Int.ediv_mul_le _ (by decide)
  exact ten_le_two (by omega) (by omega)

private theorem finest_onGrid? (tie : DecimalTie) {number : Binary64} (regular : Regular number) :
    (number.onGrid? tie (number.leading - 18)).isSome = true := by
  obtain ⟨low, near⟩ := below_bounds number (number.leading - 18)
  exact onGrid?_of_below tie (rounds_of_near regular low (near.trans_le (by linarith [finest_step regular])))

/-- The shortest decimal of a number rounds to it. -/
theorem rounds_shortest (tie : DecimalTie) {number : Binary64} (regular : Regular number) :
    number.Rounds (number.shortest tie).value := by
  obtain ⟨decimal, same, -, found⟩ := shortestFrom_spec (by omega : number.leading - 18 ≤ number.leading + 2)
    (by omega : number.leading + 2 < number.leading - 18 + (21 : Nat)) (finest_onGrid? tie regular)
  rw [shortest_eq, same]
  exact (onGrid?_eq_some found).2

private theorem whole_iff {number : Binary64} (regular : Regular number) :
    number.isWhole = true ↔ ∃ whole : Nat, (whole : ℚ) = number.size := by
  have scaled : number.size = number.ratio.1 / number.ratio.2 := by
    have parts : number.ratio = (number.significand * 2 ^ number.exponent.toNat, 2 ^ (-number.exponent).toNat) := rfl
    rw [size, parts, zpow_eq_div (by norm_num)]
    push_cast
    rw [mul_div_assoc]
  have positive : (0 : ℚ) < number.ratio.2 := by
    have divides : 0 < number.ratio.2 := Nat.pow_pos (by decide)
    exact_mod_cast divides
  rw [isWhole, regular.finite, Bool.true_and, decide_eq_true_eq, ← Nat.dvd_iff_mod_eq_zero]
  refine exists_congr fun whole => ?_
  rw [scaled, eq_div_iff positive.ne', mul_comm (whole : ℚ)]
  constructor
  · intro same
    rw [same]
    push_cast
    rfl
  · intro same
    exact_mod_cast same.symm

/-- Of numbers that are not whole none rounds to a whole one: these are at least half of the last place away. -/
theorem whole_of_rounds {number : Binary64} (regular : Regular number) (near : Nat) (rounds : number.Rounds near) :
    number.isWhole = true := by
  obtain ⟨low, high, -, -⟩ := rounds.bounds regular
  rw [whole_iff regular]
  rcases le_or_gt 0 number.exponent with large | small
  · obtain ⟨places, same⟩ := Int.eq_ofNat_of_zero_le large
    refine ⟨number.significand * 2 ^ places, ?_⟩
    rw [size, same, zpow_natCast]
    push_cast
    rfl
  · obtain ⟨places, same⟩ : ∃ places : Nat, number.exponent = -places := ⟨number.exponent.natAbs, by omega⟩
    have unit : (2 : ℚ) ^ number.exponent * 2 ^ places = 1 := by
      rw [same, zpow_neg, zpow_natCast]
      exact inv_mul_cancel₀ (by positivity)
    have wide : (0 : ℚ) < 2 ^ places := by positivity
    have below : (number.significand : ℚ) - 1 / 2 ≤ near * 2 ^ places := by
      calc (number.significand : ℚ) - 1 / 2 = (number.significand - 1 / 2) * 2 ^ number.exponent * 2 ^ places := by
            rw [mul_assoc, unit, mul_one]
        _ ≤ near * 2 ^ places := mul_le_mul_of_nonneg_right low wide.le
    have above : (near : ℚ) * 2 ^ places ≤ number.significand + 1 / 2 := by
      calc (near : ℚ) * 2 ^ places ≤ (number.significand + 1 / 2) * 2 ^ number.exponent * 2 ^ places :=
            mul_le_mul_of_nonneg_right high wide.le
        _ = number.significand + 1 / 2 := by rw [mul_assoc, unit, mul_one]
    have exact : near * 2 ^ places = number.significand := by
      have low' : number.significand < near * 2 ^ places + 1 := by
        suffices (number.significand : ℚ) < near * 2 ^ places + 1 by exact_mod_cast this
        linarith
      have high' : near * 2 ^ places < number.significand + 1 := by
        suffices (near : ℚ) * 2 ^ places < number.significand + 1 by exact_mod_cast this
        linarith
      omega
    refine ⟨near, ?_⟩
    have cast : (number.significand : ℚ) = near * 2 ^ places := by exact_mod_cast exact.symm
    rw [size, cast, mul_assoc, mul_comm (2 ^ places : ℚ), unit, mul_one]

/-- A whole number is on the grid of units. -/
theorem units_onGrid? (tie : DecimalTie) {number : Binary64} (regular : Regular number) {whole : Nat}
    (same : (whole : ℚ) = number.size) : (number.onGrid? tie 0).isSome = true := by
  obtain ⟨low, high⟩ := below_bounds number 0
  refine onGrid?_of_below tie (rounds_of_near regular low ?_)
  rw [zpow_zero, mul_one, ← same] at low high ⊢
  have low' : number.below 0 ≤ whole := by exact_mod_cast low
  have high' : whole < number.below 0 + 1 := by exact_mod_cast high
  obtain rfl : number.below 0 = whole := by omega
  linarith [zpow_two_pos (number.exponent - 2)]

private theorem leading_nonneg {number : Binary64} (regular : Regular number) {whole : Nat}
    (same : (whole : ℚ) = number.size) :
    0 ≤ number.leading := by
  obtain ⟨-, positive, -, -, -, -⟩ := regular.parts
  have some : (0 : ℚ) < number.size := mul_pos (by exact_mod_cast positive) (zpow_two_pos _)
  rw [← same] at some
  have one : 1 ≤ whole := by exact_mod_cast some
  have above : (2 : ℚ) ^ (0 : Int) < 2 ^ ((number.significand.log2 : Int) + 1 + number.exponent) := by
    calc (2 : ℚ) ^ (0 : Int) ≤ number.size := by
          rw [zpow_zero, ← same]
          exact_mod_cast one
      _ < 2 ^ ((number.significand.log2 : Int) + 1) * 2 ^ number.exponent := by
          apply mul_lt_mul_of_pos_right _ (zpow_two_pos _)
          exact_mod_cast Nat.lt_log2_self (n := number.significand)
      _ = _ := (zpow_two_add _ _).symm
  have := lt_of_zpow_two_lt above
  exact Int.ediv_nonneg (mul_nonneg (by omega) (by decide)) (by decide)

/-- The shortest decimal shows that a number is whole. -/
theorem shortest_power (tie : DecimalTie) {number : Binary64} (regular : Regular number) :
    0 ≤ (number.shortest tie).power ↔ number.isWhole = true := by
  constructor
  · intro high
    obtain ⟨places, same⟩ := Int.eq_ofNat_of_zero_le high
    have rounds := rounds_shortest tie regular
    rw [Decimal.value, same, zpow_natCast] at rounds
    exact whole_of_rounds regular ((number.shortest tie).coefficient * 10 ^ places) (by exact_mod_cast rounds)
  · intro isWhole
    obtain ⟨whole, same⟩ := (whole_iff regular).mp isWhole
    have start := leading_nonneg regular same
    rw [shortest_eq]
    rcases le_or_gt number.leading 18 with few | many
    · obtain ⟨decimal, same, high, -⟩ := shortestFrom_spec (by omega : 0 ≤ number.leading + 2)
        (by omega : number.leading + 2 < 0 + (21 : Nat)) (units_onGrid? tie regular same)
      rwa [same]
    · obtain ⟨decimal, same, high, -⟩ := shortestFrom_spec (by omega : number.leading - 18 ≤ number.leading + 2)
        (by omega : number.leading + 2 < number.leading - 18 + (21 : Nat)) (finest_onGrid? tie regular)
      rw [same]
      omega

private theorem lt_ten_pow_length (value : Nat) : value < 10 ^ (Nat.toDigits 10 value).length := by
  induction value using Nat.strongRecOn with
  | ind value ih =>
    rcases Nat.lt_or_ge value 10 with small | large
    · rw [Nat.toDigits_of_lt_base small]
      exact small
    · have shorter := ih (value / 10) (by omega)
      rw [Nat.toDigits_of_base_le (by decide) large, List.length_append, List.length_singleton, Nat.pow_succ]
      omega

private theorem ten_pow_length_le {value : Nat} (positive : 0 < value) :
    10 ^ (Nat.toDigits 10 value).length ≤ 10 * value := by
  induction value using Nat.strongRecOn with
  | ind value ih =>
    rcases Nat.lt_or_ge value 10 with small | large
    · rw [Nat.toDigits_of_lt_base small]
      exact Nat.mul_le_mul_left 10 positive
    · have shorter := ih (value / 10) (by omega) (by omega)
      rw [Nat.toDigits_of_base_le (by decide) large, List.length_append, List.length_singleton, Nat.pow_succ]
      omega

/-- A decimal has the size of its first digit. -/
theorem decimal_bounds {coefficient : Nat} (some : 0 < coefficient) (power : Int) :
    (coefficient : ℚ) * 10 ^ power < 10 ^ (power + (Nat.toDigits 10 coefficient).length) ∧
      (10 : ℚ) ^ (power + (Nat.toDigits 10 coefficient).length) ≤ 10 * (coefficient * 10 ^ power) := by
  have scale : (0 : ℚ) < 10 ^ power := zpow_pos (by norm_num) power
  have longest : (10 : ℚ) ^ (Nat.toDigits 10 coefficient).length ≤ 10 * coefficient := by
    exact_mod_cast ten_pow_length_le some
  have shortest : (coefficient : ℚ) < 10 ^ (Nat.toDigits 10 coefficient).length := by
    exact_mod_cast lt_ten_pow_length coefficient
  rw [zpow_add₀ (by norm_num), zpow_natCast, mul_comm ((10 : ℚ) ^ power), ← mul_assoc]
  exact ⟨mul_lt_mul_of_pos_right shortest scale, mul_le_mul_of_nonneg_right longest scale.le⟩

private theorem two_lt_ten : (2 : ℚ) ^ (1024 : Int) < 10 ^ (309 : Int) := by
  have limit : 2 ^ 1024 < 10 ^ 309 := by decide +kernel
  exact_mod_cast limit

/-- The first digit of a decimal that rounds to a finite number has one of few places. -/
theorem leading_bounds {number : Binary64} (regular : Regular number) {coefficient : Nat} {power : Int}
    (rounds : number.Rounds (coefficient * 10 ^ power)) : 0 < coefficient ∧
      -326 ≤ power + (Nat.toDigits 10 coefficient).length ∧ power + (Nat.toDigits 10 coefficient).length ≤ 310 := by
  have some : 0 < coefficient := by
    apply Nat.pos_of_ne_zero
    rintro rfl
    have above := rounds.pos regular
    rw [Nat.cast_zero, zero_mul] at above
    exact lt_irrefl 0 above
  obtain ⟨high, low⟩ := decimal_bounds some power
  generalize power + ((Nat.toDigits 10 coefficient).length : Int) = place at high low ⊢
  have above : (10 : ℚ) ^ (-324 : Int) < 10 ^ place := by
    calc (10 : ℚ) ^ (-324 : Int) ≤ 2 ^ (-1075 : Int) := ten_le_two (by decide) (by decide)
      _ ≤ coefficient * 10 ^ power := rounds.ge regular
      _ < 10 ^ place := high
  have under : (10 : ℚ) ^ place < 10 ^ (310 : Int) := by
    calc (10 : ℚ) ^ place ≤ 10 * (coefficient * 10 ^ power) := low
      _ < 10 * 2 ^ (1024 : Int) := mul_lt_mul_of_pos_left (rounds.lt regular) (by norm_num)
      _ < 10 * 10 ^ (309 : Int) := mul_lt_mul_of_pos_left two_lt_ten (by norm_num)
      _ = 10 ^ (310 : Int) := (zpow_one_add₀ (by norm_num) 309).symm
  have least := (zpow_lt_zpow_iff_right₀ (by norm_num : (1 : ℚ) < 10)).mp above
  have most := (zpow_lt_zpow_iff_right₀ (by norm_num : (1 : ℚ) < 10)).mp under
  exact ⟨some, by omega, by omega⟩

/-- A decimal that rounds to a number is read as that number. -/
theorem ofDecimal_of_rounds {number : Binary64} (regular : Regular number) {coefficient : Nat} {power : Int}
    (rounds : number.Rounds (coefficient * 10 ^ power)) : ofDecimal number.negative coefficient power = number := by
  obtain ⟨some, low, high⟩ := leading_bounds regular rounds
  have ratio : (coefficient : ℚ) * 10 ^ power =
      (coefficient * 10 ^ power.toNat : Nat) / (10 ^ (-power).toNat : Nat) := by
    rw [zpow_eq_div (by norm_num), ← mul_div_assoc]
    push_cast
    rfl
  rw [ratio] at rounds
  rw [ofDecimal, if_neg (Nat.ne_of_gt some), if_neg (Int.not_lt.mpr high), if_neg (Int.not_lt.mpr low)]
  exact ofRatio_of_rounds regular (Nat.pow_pos (by decide)) rounds

end Binary64

end IntentRollout
