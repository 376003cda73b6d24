import IntentRollout.Proofs.DeliveryRetries
import IntentRollout.Proofs.LockStep

/-! Work in lock step. Two pieces of work are locked if, from progress that differs only in what was logged first, they
mirror each other and come to progress of that kind again. Rules say so of work that is put together. -/

namespace IntentRollout

namespace Timeline

variable {α β : Type}

/-- Work in which consent is not asked for. -/
def Plain (work : Timeline α) : Prop := ∀ now, Plan.Mirrors Eq (work now) (work now)

private theorem plain_pure (value : α) : Plain (pure value) := fun _ => .done rfl

private theorem plain_bind {work : Timeline α} {next : α → Timeline β} (first : Plain work)
    (each : ∀ value, Plain (next value)) : Plain (work >>= next) := fun now =>
  (first now).bind fun (value, later) _ same => same ▸ each value later

theorem plain_ask {request : Request} (plain : ∀ phase, request ≠ .confirm phase) : Plain (Timeline.ask request) :=
  fun _ => .ask plain fun _ => .done rfl

private theorem plain_runFrom (policy : RetryPolicy) {call : Timeline (Except DeliveryError α)} (plain : Plain call)
    (left attempt : Nat) : Plain (policy.runFrom DeliveryError.isTransient
      (fun milliseconds => Timeline.ask (.pause milliseconds)) (fun _ => call) left attempt) := by
  induction left generalizing attempt with
  | zero => exact plain
  | succ left ih =>
    refine plain_bind plain fun result => ?_
    cases result with
    | ok value => exact plain_pure _
    | error error =>
      dsimp only
      split
      · exact plain_bind (plain_ask nofun) fun _ => ih (attempt + 1)
      · exact plain_pure _

theorem plain_deliver (policy : RetryPolicy) {call : Timeline (Except DeliveryError α)} (plain : Plain call) :
    Plain (deliver policy call) := plain_runFrom policy plain _ _

private theorem plain_get : Plain get := fun _ => .done rfl

private theorem plain_poll (target : String) (revision : Option String) (interval deadline tries : Nat) :
    Plain (Convergence.poll target revision interval deadline tries) := by
  induction tries with
  | zero => exact plain_pure _
  | succ tries ih =>
    refine plain_bind (plain_ask nofun) fun state => ?_
    split
    · exact plain_pure _
    · exact plain_pure _
    · refine plain_bind plain_get fun now => ?_
      split
      · exact plain_pure _
      · refine plain_bind (plain_ask nofun) fun interrupted => ?_
        split
        · exact plain_pure _
        · exact ih

theorem plain_await (watched : Bool) (target : String) (revision : Option String) (settings : VerifySettings) :
    Plain (Convergence.await watched target revision settings) := by
  rw [Convergence.await]
  split
  · exact plain_bind plain_get fun start => plain_poll _ _ _ _ _
  · refine plain_bind (plain_ask nofun) fun interrupted => ?_
    split <;> exact plain_pure _

end Timeline

section

variable {α β : Type} (ours theirs : List (Nat × LogEntry))

/-- Two ends of work at the same time and with the same standing, with the same new lines in both logs. -/
inductive Abreast (related : α → α → Prop) : (α × Progress) × Nat → (α × Progress) × Nat → Prop where
  | intro {one other : α} {standing : Standing} {log : List (Nat × LogEntry)} {now : Nat}
    (values : related one other) :
    Abreast related ((one, ⟨standing, ours ++ log⟩), now) ((other, ⟨standing, theirs ++ log⟩), now)

def Locked (related : α → α → Prop) (one other : Working α) : Prop :=
  ∀ standing log now, Plan.Mirrors (Abreast ours theirs related)
    (one ⟨standing, ours ++ log⟩ now) (other ⟨standing, theirs ++ log⟩ now)

variable {ours theirs} {related : α → α → Prop} {further : β → β → Prop}

namespace Locked

theorem pure {one other : α} (values : related one other) :
    Locked ours theirs related (Pure.pure one) (Pure.pure other) :=
  fun _ _ _ => .done (.intro values)

theorem bind {one other : Working α} {next rest : α → Working β} (first : Locked ours theirs related one other)
    (each : ∀ value value', related value value' → Locked ours theirs further (next value) (rest value')) :
    Locked ours theirs further (one >>= next) (other >>= rest) := by
  intro standing log now
  refine (first standing log now).bind fun _ _ abreast => ?_
  cases abreast with
  | intro values => exact each _ _ values _ _ _

theorem bind_eq {one other : Working α} {next rest : α → Working β} (first : Locked ours theirs Eq one other)
    (each : ∀ value, Locked ours theirs further (next value) (rest value)) :
    Locked ours theirs further (one >>= next) (other >>= rest) :=
  first.bind fun value _ same => same ▸ each value

theorem lift {work : Timeline α} (plain : Timeline.Plain work) :
    Locked ours theirs Eq (liftM work : Working α) (liftM work) := by
  intro standing log now
  refine (plain now).bind fun _ _ same => ?_
  cases same
  exact .done (.intro rfl)

theorem note (level : LogLevel) (message : String) :
    Locked ours theirs Eq (Attempt.note level message) (Attempt.note level message) := by
  intro standing log now
  change Plan.Mirrors _ (.done (((), (⟨standing, ours ++ log ++ [(now, ⟨level, message⟩)]⟩ : Progress)), now))
    (.done (((), (⟨standing, theirs ++ log ++ [(now, ⟨level, message⟩)]⟩ : Progress)), now))
  rw [List.append_assoc, List.append_assoc]
  exact .done (.intro rfl)

theorem advance (change : Standing → Standing) :
    Locked ours theirs Eq (Attempt.advance change) (Attempt.advance change) :=
  fun _ _ _ => .done (.intro rfl)

theorem record (change : ReportDetails → ReportDetails) :
    Locked ours theirs Eq (Attempt.record change) (Attempt.record change) := advance _

theorem get_bind {next rest : Progress → Working β}
    (each : ∀ standing log,
      Locked ours theirs further (next ⟨standing, ours ++ log⟩) (rest ⟨standing, theirs ++ log⟩)) :
    Locked ours theirs further (get >>= next) (get >>= rest) :=
  fun standing log now => each standing log standing log now

end Locked

def Onward (one other : Except Halt α) : Prop := one = other ∧ one ≠ .error .declined

variable (ours theirs) in
def Step.Locked (one other : Step α) : Prop := IntentRollout.Locked ours theirs Onward one.run other.run

namespace Step.Locked

theorem pure (value : α) : Step.Locked ours theirs (Pure.pure value) (Pure.pure value) :=
  IntentRollout.Locked.pure ⟨rfl, nofun⟩

theorem throw {halt : Halt} (kept : halt ≠ .declined) :
    Step.Locked ours theirs (MonadExcept.throw halt : Step α) (MonadExcept.throw halt) :=
  IntentRollout.Locked.pure ⟨rfl, fun same => kept (Except.error.inj same)⟩

theorem bind {one other : Step α} {next rest : α → Step β} (first : Step.Locked ours theirs one other)
    (each : ∀ value, Step.Locked ours theirs (next value) (rest value)) :
    Step.Locked ours theirs (one >>= next) (other >>= rest) := by
  refine IntentRollout.Locked.bind first fun result _ both => ?_
  obtain ⟨rfl, kept⟩ := both
  cases result with
  | ok value => exact each value
  | error halt => exact throw fun same => kept (congrArg _ same)

theorem lift {one other : Working α} (locked : IntentRollout.Locked ours theirs Eq one other) :
    Step.Locked ours theirs (liftM one) (liftM other) :=
  locked.bind_eq fun _ => IntentRollout.Locked.pure ⟨rfl, nofun⟩

theorem time {work : Timeline α} (plain : Timeline.Plain work) :
    Step.Locked ours theirs (liftM work : Step α) (liftM work) := lift (.lift plain)

theorem note (level : LogLevel) (message : String) :
    Step.Locked ours theirs (liftM (Attempt.note level message)) (liftM (Attempt.note level message)) :=
  lift (.note level message)

theorem advance (change : Standing → Standing) :
    Step.Locked ours theirs (liftM (Attempt.advance change)) (liftM (Attempt.advance change)) :=
  lift (.advance change)

theorem record (change : ReportDetails → ReportDetails) :
    Step.Locked ours theirs (liftM (Attempt.record change)) (liftM (Attempt.record change)) := advance _

theorem ask {request : Request} (plain : ∀ phase, request ≠ .confirm phase) :
    Step.Locked ours theirs (liftM (Attempt.ask request)) (liftM (Attempt.ask request)) :=
  lift (.lift (Timeline.plain_ask plain))

theorem forM {items : List β} {one other : β → Step PUnit}
    (each : ∀ item, Step.Locked ours theirs (one item) (other item)) :
    Step.Locked ours theirs (items.forM one) (items.forM other) := by
  induction items with
  | nil => exact pure ()
  | cons item rest ih => exact bind (each item) fun _ => ih

theorem require {ε : Type} (phase : Phase) (cause : ε → RolloutError) (result : Except ε α) :
    Step.Locked ours theirs (Attempt.require phase cause result) (Attempt.require phase cause result) := by
  cases result with
  | ok value => exact pure value
  | error error => exact throw nofun

end Step.Locked

end

end IntentRollout
