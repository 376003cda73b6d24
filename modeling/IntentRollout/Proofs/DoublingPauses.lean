import IntentRollout.Proofs.WrittenWaits
import Mathlib.Algebra.Group.Nat.Defs

/-! Pauses that double. A pause is a product that stops at three limits: at a factor of 32 bits, at the longest wait
that there is, and at the longest pause of the policy. None of them turns the growth around, and the first two are out
of sight as long as the factor or the longest pause is small enough. -/

namespace IntentRollout

namespace RetryPolicy

private theorem doubling_of_lt {times : Nat} (small : times < 32) : doubling times = 2 ^ times := if_pos small

private theorem doubling_of_le {times : Nat} (large : 32 ≤ times) : doubling times = 2 ^ 32 - 1 :=
  if_neg (Nat.not_lt_of_le large)

private theorem doubling_le (times : Nat) : doubling times ≤ 2 ^ 32 - 1 := by
  by_cases small : times < 32
  · rw [doubling_of_lt small]
    have below : 2 ^ times < 2 ^ 32 := Nat.pow_lt_pow_right (by decide) small
    omega
  · exact Nat.le_of_eq (doubling_of_le (Nat.le_of_not_lt small))

private theorem doubling_mono {first second : Nat} (later : first ≤ second) : doubling first ≤ doubling second := by
  by_cases small : second < 32
  · rw [doubling_of_lt small, doubling_of_lt (Nat.lt_of_le_of_lt later small)]
    exact Nat.pow_le_pow_right (by decide) later
  · rw [doubling_of_le (Nat.le_of_not_lt small)]
    exact doubling_le first

section Limits

variable {perSecond initialPause longestPause : Nat}

private theorem pauseIn_mono {first second : Nat} (later : first ≤ second) :
    pauseIn perSecond initialPause longestPause first ≤ pauseIn perSecond initialPause longestPause second := by
  have factor : doubling (first - 1) ≤ doubling (second - 1) := doubling_mono (Nat.sub_le_sub_right later 1)
  have product := Nat.mul_le_mul_left initialPause factor
  unfold pauseIn
  omega

private theorem pauseIn_le (attempt : Nat) : pauseIn perSecond initialPause longestPause attempt ≤ longestPause :=
  Nat.min_le_right _ _

/-- The longest wait that there is does not show behind the longest pause. -/
theorem pauseIn_eq (reachable : longestPause ≤ Wait.longestIn perSecond) (attempt : Nat) :
    pauseIn perSecond initialPause longestPause attempt = min (initialPause * doubling (attempt - 1)) longestPause := by
  unfold pauseIn
  omega

private theorem pauseIn_of_small (reachable : longestPause ≤ Wait.longestIn perSecond) {attempt : Nat}
    (small : attempt ≤ 32) : pauseIn perSecond initialPause longestPause attempt =
      min (initialPause * 2 ^ (attempt - 1)) longestPause := by
  rw [pauseIn_eq reachable, doubling_of_lt (by omega)]

private theorem pauseIn_of_large (reachable : longestPause ≤ Wait.longestIn perSecond) {attempt : Nat}
    (large : 32 < attempt) : pauseIn perSecond initialPause longestPause attempt =
      min (initialPause * (2 ^ 32 - 1)) longestPause := by
  rw [pauseIn_eq reachable, doubling_of_le (by omega)]

/-- A longest pause that the greatest factor reaches is reached by every greater one. -/
theorem pauseIn_of_reached (reachable : longestPause ≤ Wait.longestIn perSecond)
    (reached : longestPause ≤ initialPause * (2 ^ 32 - 1)) (attempt : Nat) :
    pauseIn perSecond initialPause longestPause attempt = min (initialPause * 2 ^ (attempt - 1)) longestPause := by
  by_cases small : attempt ≤ 32
  · exact pauseIn_of_small reachable small
  · have large : 32 < attempt := Nat.lt_of_not_le small
    have power : 2 ^ 32 ≤ 2 ^ (attempt - 1) := Nat.pow_le_pow_right (by decide) (by omega)
    have beyond : longestPause ≤ initialPause * 2 ^ (attempt - 1) :=
      calc
        longestPause ≤ initialPause * (2 ^ 32 - 1) := reached
        _ ≤ initialPause * 2 ^ (attempt - 1) := Nat.mul_le_mul_left initialPause (by omega)
    rw [pauseIn_of_large reachable large, Nat.min_eq_right reached, Nat.min_eq_right beyond]

end Limits

/-- Pauses that double from a first one up to a longest one. -/
structure Doubles (pause : Nat → Nat) (initialPause longestPause : Nat) : Prop where
  rising : ∀ first second, first ≤ second → pause first ≤ pause second
  capped : ∀ attempt, pause attempt ≤ longestPause
  exact : ∀ attempt, attempt ≤ 32 ∨ longestPause ≤ initialPause * (2 ^ 32 - 1) →
    pause attempt = min (initialPause * 2 ^ (attempt - 1)) longestPause
  /-- Where the factor ends before the longest pause is reached, the pauses stay as they are. -/
  level : ∀ attempt, 32 < attempt → initialPause * (2 ^ 32 - 1) < longestPause →
    pause attempt = initialPause * (2 ^ 32 - 1)

private theorem doubles_pauseIn {perSecond initialPause longestPause : Nat}
    (reachable : longestPause ≤ Wait.longestIn perSecond) :
    Doubles (pauseIn perSecond initialPause longestPause) initialPause longestPause where
  rising _ _ := pauseIn_mono
  capped := pauseIn_le
  exact attempt bounded := by
    rcases bounded with small | reached
    · exact pauseIn_of_small reachable small
    · exact pauseIn_of_reached reachable reached attempt
  level attempt large short := by
    rw [pauseIn_of_large reachable large, Nat.min_eq_left (Nat.le_of_lt short)]

end RetryPolicy

/-- No written wait is longer than waits can be. -/
theorem Wait.le_longestIn_of_read {text : String} {wait : Nat} (found : readWait text = .ok wait) :
    wait ≤ Wait.longestIn 1000 := by
  obtain ⟨number, unit, _, fits, rfl⟩ := readWait_eq_ok.mp found
  rw [longestIn]
  cases unit <;> simp only [TimeUnit.Fits, TimeUnit.counts] at fits <;> simp only [TimeUnit.milliseconds] <;> omega

private theorem RetryTexts.reachable_of_policy {texts : RetryTexts} {policy : RetryPolicy}
    (read : texts.policy = .ok policy) : policy.longestPause ≤ Wait.longestIn 1000 := by
  obtain ⟨initialPause, _, rest⟩ := bind_eq_ok.mp read
  obtain ⟨longestPause, longest, made⟩ := bind_eq_ok.mp rest
  cases made
  exact Wait.le_longestIn_of_read longest

namespace RetryPolicy

/-- Pauses double up to the longest one, in every unit of time; for the policies that configurations are read as, that
is so without a condition. -/
theorem pauses_double :
    (∀ perSecond initialPause longestPause, longestPause ≤ Wait.longestIn perSecond →
      Doubles (pauseIn perSecond initialPause longestPause) initialPause longestPause) ∧
    (∀ policy : RetryPolicy, policy.longestPause ≤ Wait.longestIn 1000 →
      Doubles policy.pause policy.initialPause policy.longestPause) ∧
    ∀ (texts : RetryTexts) policy, texts.policy = .ok policy →
      Doubles policy.pause policy.initialPause policy.longestPause :=
  ⟨fun _ _ _ reachable => doubles_pauseIn reachable, fun _ reachable => doubles_pauseIn reachable,
    fun _ _ read => doubles_pauseIn (RetryTexts.reachable_of_policy read)⟩

/-- A nanosecond that may grow into the longest wait, and the policy of a configuration that leaves it out. -/
theorem nanoseconds_double :
    Doubles (pauseIn 1000000000 1 (Wait.longestIn 1000000000)) 1 (Wait.longestIn 1000000000) ∧
    (RetryPolicy.ofAttempts 3 1000 10000).longestPause ≤ Wait.longestIn 1000 ∧
    Doubles (RetryPolicy.ofAttempts 3 1000 10000).pause 1000 10000 ∧
    ({} : RetryTexts).policy = .ok (RetryPolicy.ofAttempts 3 1000 10000) := by
  have reachable : (RetryPolicy.ofAttempts 3 1000 10000).longestPause ≤ Wait.longestIn 1000 := by decide
  have read : ({} : RetryTexts).policy = .ok (RetryPolicy.ofAttempts 3 1000 10000) := by decide +kernel
  exact ⟨pauses_double.1 _ _ _ (Nat.le_refl _), reachable, pauses_double.2.1 _ reachable, read⟩

end RetryPolicy

end IntentRollout
