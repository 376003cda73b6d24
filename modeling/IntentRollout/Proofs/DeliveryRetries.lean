import IntentRollout.Proofs.PlanRuns

/-! Calls of the delivery tree that are tried again. A call is repeated after a transient failure
alone, and no more often than the policy allows; the last reply is the result. -/

namespace IntentRollout

/-- A delivery call that may be tried so many times: its exchanges and its result. It is tried again
after a transient failure alone, and after nothing else. -/
inductive Tried {α : Type} (exchange : Timed (Except DeliveryError α) → Exchange) :
    Nat → List Exchange → Except DeliveryError α → Prop where
  | settled {left} (reply) (final : ∀ error, reply.value = .error error → error.isTransient = false) :
      Tried exchange (left + 1) [exchange reply] reply.value
  | last (reply) : Tried exchange 1 [exchange reply] reply.value
  | again {left error time milliseconds pause trace result} (transient : error.isTransient = true)
      (rest : Tried exchange left trace result) :
      Tried exchange (left + 1)
        (exchange ⟨.error error, time⟩ :: ⟨.pause milliseconds, pause⟩ :: trace) result

namespace Timeline

variable {α : Type} {start finish : Nat} {trace : List Exchange}

private theorem runs_runFrom (policy : RetryPolicy) {call : Timeline (Except DeliveryError α)}
    {exchange : Timed (Except DeliveryError α) → Exchange}
    (calls : ∀ {start trace value finish}, Runs call start trace value finish →
      trace = [exchange ⟨value, finish⟩])
    (left attempt : Nat) {result : Except DeliveryError α}
    (ran : Runs (policy.runFrom DeliveryError.isTransient
      (fun milliseconds => Timeline.ask (.pause milliseconds)) (fun _ => call) left attempt)
      start trace result finish) :
    Tried exchange (left + 1) trace result := by
  induction left generalizing attempt start trace with
  | zero =>
    obtain rfl := calls ran
    exact .last ⟨result, finish⟩
  | succ left ih =>
    obtain ⟨first, value, time, rest, rfl, called, onward⟩ := Runs.bind ran
    obtain rfl := calls called
    cases value with
    | ok value =>
      obtain ⟨rfl, rfl, rfl⟩ := onward.pure
      exact .settled ⟨.ok value, finish⟩ (fun _ impossible => by cases impossible)
    | error error =>
      simp only at onward
      split at onward
      next transient =>
        obtain ⟨pause, rest, rfl, retried⟩ := onward.ask_bind
        exact .again transient (ih (attempt + 1) retried)
      next permanent =>
        obtain ⟨rfl, rfl, rfl⟩ := onward.pure
        refine .settled ⟨.error error, finish⟩ fun other same => ?_
        cases same
        exact eq_false_of_ne_true permanent

theorem runs_deliver {policy : RetryPolicy} {call : Timeline (Except DeliveryError α)}
    {exchange : Timed (Except DeliveryError α) → Exchange}
    (calls : ∀ {start trace value finish}, Runs call start trace value finish →
      trace = [exchange ⟨value, finish⟩])
    {result : Except DeliveryError α}
    (ran : Runs (deliver policy call) start trace result finish) :
    Tried exchange policy.attempts trace result := by
  have tried := runs_runFrom policy calls (policy.attempts - 1) 1 ran
  rwa [Nat.sub_add_cancel policy.attempts_pos] at tried

end Timeline

/-- The replies to a delivery call that was tried so many times at most, as long as that was worth it. -/
structure TriedOut {α : Type} (attempts : Nat) (replies : List (Timed (Except DeliveryError α)))
    (result : Except DeliveryError α) : Prop where
  transient : ∀ reply ∈ replies.dropLast,
    ∃ error, reply.value = .error error ∧ error.isTransient = true
  last : ∃ reply, replies.getLast? = some reply ∧ reply.value = result
  ended : (∃ value, result = .ok value) ∨
    (∃ error, result = .error error ∧ error.isTransient = false) ∨ replies.length = attempts
  bounded : replies.length ≤ attempts

inductive Fruitless {α : Type} (exchange : Timed (Except DeliveryError α) → Exchange) : Exchange → Prop where
  | failure (error time) : Fruitless exchange (exchange ⟨.error error, time⟩)
  | pause (milliseconds reply) : Fruitless exchange ⟨.pause milliseconds, reply⟩

namespace Tried

variable {α : Type} {exchange : Timed (Except DeliveryError α) → Exchange} {left : Nat}
  {trace : List Exchange} {result : Except DeliveryError α}

theorem members (tried : Tried exchange left trace result) : ∀ member ∈ trace,
    (∃ reply, member = exchange reply) ∨ ∃ milliseconds reply, member = ⟨.pause milliseconds, reply⟩ := by
  induction tried with
  | settled reply _ | last reply =>
    intro member inside
    exact .inl ⟨reply, List.mem_singleton.mp inside⟩
  | again _ _ ih =>
    intro member inside
    rcases List.mem_cons.mp inside with rfl | inside
    · exact .inl ⟨_, rfl⟩
    · rcases List.mem_cons.mp inside with rfl | inside
      · exact .inr ⟨_, _, rfl⟩
      · exact ih member inside

theorem triedOut (tried : Tried exchange left trace result) {calls : Exchange → Bool}
    (called : ∀ reply, calls (exchange reply) = true)
    (paused : ∀ milliseconds reply, calls ⟨.pause milliseconds, reply⟩ = false) :
    ∃ replies, trace.filter calls = replies.map exchange ∧ TriedOut left replies result := by
  induction tried with
  | @settled left reply final =>
    refine ⟨[reply], by simp [called], ⟨by simp, ⟨reply, rfl, rfl⟩, ?_, by simp⟩⟩
    cases returned : reply.value with
    | ok value => exact .inl ⟨value, rfl⟩
    | error error => exact .inr (.inl ⟨error, rfl, final error returned⟩)
  | last reply =>
    exact ⟨[reply], by simp [called], ⟨by simp, ⟨reply, rfl, rfl⟩, .inr (.inr rfl), by simp⟩⟩
  | @again left error time milliseconds pause trace result transient rest ih =>
    obtain ⟨replies, same, triedOut⟩ := ih
    obtain ⟨reply, last, value⟩ := triedOut.last
    have nonempty : replies ≠ [] := by
      rintro rfl
      cases last
    refine ⟨⟨.error error, time⟩ :: replies, ?_, ?_, ?_, ?_, ?_⟩
    · simp [called, paused, same]
    · intro other member
      rw [List.dropLast_cons_of_ne_nil nonempty] at member
      rcases List.mem_cons.mp member with rfl | member
      · exact ⟨error, rfl, transient⟩
      · exact triedOut.transient other member
    · exact ⟨reply, by rw [List.getLast?_cons, last, Option.getD_some], value⟩
    · rcases triedOut.ended with success | permanent | exhausted
      · exact .inl success
      · exact .inr (.inl permanent)
      · exact .inr (.inr (by rw [List.length_cons, exhausted]))
    · exact Nat.succ_le_succ triedOut.bounded

theorem succeeded {value : α} (tried : Tried exchange left trace (.ok value)) :
    ∃ opening time, trace = opening ++ [exchange ⟨.ok value, time⟩] ∧
      ∀ member ∈ opening, Fruitless exchange member := by
  generalize same : Except.ok value = result at tried
  induction tried with
  | settled reply _ | last reply =>
    obtain ⟨result, time⟩ := reply
    cases same
    exact ⟨[], time, rfl, by simp⟩
  | @again left error time milliseconds pause trace result transient rest ih =>
    obtain ⟨opening, last, rfl, failures⟩ := ih same
    refine ⟨exchange ⟨.error error, time⟩ :: ⟨.pause milliseconds, pause⟩ :: opening, last, rfl, ?_⟩
    intro member inside
    rcases List.mem_cons.mp inside with rfl | inside
    · exact .failure error time
    · rcases List.mem_cons.mp inside with rfl | inside
      · exact .pause milliseconds pause
      · exact failures member inside

theorem refused {error : DeliveryError} (tried : Tried exchange left trace (.error error)) :
    ∀ member ∈ trace, Fruitless exchange member := by
  generalize same : Except.error error = result at tried
  induction tried with
  | settled reply _ | last reply =>
    obtain ⟨result, time⟩ := reply
    cases same
    intro member inside
    obtain rfl := List.mem_singleton.mp inside
    exact .failure error time
  | @again left error' time milliseconds pause trace result transient rest ih =>
    intro member inside
    rcases List.mem_cons.mp inside with rfl | inside
    · exact .failure error' time
    · rcases List.mem_cons.mp inside with rfl | inside
      · exact .pause milliseconds pause
      · exact ih same member inside

end Tried

end IntentRollout
