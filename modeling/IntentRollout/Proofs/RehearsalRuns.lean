import IntentRollout.Proofs.WatchedRuns

/-! Rehearsals are watched. A rehearsal answers as its line allows, so that what holds of all watched runs
can be seen in rehearsals, as long as no wait is over at the very time of a request. -/

namespace IntentRollout

/-- A request that comes when a wait or a fetch is over anyway. -/
def Moment.Tied (moment : Moment) : Prop :=
  moment.exchange.request.observes = true ∧ moment.exchange.halt? = none ∧
    (moment.now, Signal.request) ∈ moment.signals

instance (moment : Moment) : Decidable moment.Tied := inferInstanceAs (Decidable (_ ∧ _ ∧ _))

namespace Rehearsal

def signals (rehearsal after : Rehearsal) : List (Nat × Signal) :=
  match rehearsal.script.interruption with
  | .after time => if rehearsal.now < time ∧ time ≤ after.now then [(time, .request)] else []
  | .on _ => if after.interrupted && !rehearsal.interrupted then [(rehearsal.now, .request)] else []
  | _ => []

def moments {α : Type} : Plan α → Rehearsal → List Moment
  | .done _, _ => []
  | .ask request next, rehearsal =>
    let (reply, after) := environment request rehearsal
    ⟨⟨request, reply⟩, rehearsal.signals after⟩ :: moments (next reply) after

theorem moments_exchange {α : Type} (plan : Plan α) (rehearsal : Rehearsal) :
    (moments plan rehearsal).map (·.exchange) = rehearsal.exchanges plan := by
  induction plan generalizing rehearsal with
  | done value => rfl
  | ask request next ih => exact congrArg _ (ih _ _)

/-- A rehearsal goes on with the same script and not earlier, and only a script that says so has a request
interrupt it. -/
structure Follows (before after : Rehearsal) : Prop where
  script : after.script = before.script
  onward : before.now ≤ after.now
  kept : before.interrupted = true → after.interrupted = true
  caused : after.interrupted = true → before.interrupted = true ∨
    ∃ name, before.script.interruption = .on name

variable {before after rehearsal : Rehearsal}

theorem Follows.refl : Follows rehearsal rehearsal := ⟨rfl, Nat.le_refl _, id, .inl⟩

theorem Follows.trans {middle : Rehearsal} (first : Follows before middle) (rest : Follows middle after) :
    Follows before after where
  script := rest.script.trans first.script
  onward := Nat.le_trans first.onward rest.onward
  kept := rest.kept ∘ first.kept
  caused interrupted := by
    rcases rest.caused interrupted with interrupted | ⟨name, caused⟩
    · exact first.caused interrupted
    · exact .inr ⟨name, by rw [← first.script, caused]⟩

theorem Follows.of_same (script : after.script = before.script) (now : after.now = before.now)
    (interrupted : after.interrupted = before.interrupted) : Follows before after :=
  ⟨script, Nat.le_of_eq now.symm, interrupted.symm ▸ id, fun same => .inl (interrupted ▸ same)⟩

private theorem Follows.of_elapse {now : Nat} (later : rehearsal.now ≤ now) :
    Follows rehearsal { rehearsal with now } :=
  ⟨rfl, later, id, .inl⟩

private theorem follows_begin (rehearsal : Rehearsal) (request : Request) :
    Follows rehearsal (rehearsal.begin request) := by
  unfold begin
  split
  next name label caused _ =>
    exact ⟨rfl, Nat.le_refl _, fun interrupted => by simp [interrupted], fun _ => .inr ⟨name, caused⟩⟩
  next => exact .refl

private theorem follows_deliver {α : Type} {label : String} {answer : Bool → Rehearsal → α × Rehearsal}
    (answers : ∀ changed called, Follows called (answer changed called).2) :
    Follows rehearsal (rehearsal.deliver label answer).2 := by
  unfold deliver
  simp only
  split
  · exact .of_same rfl rfl rfl
  · apply Follows.trans _ (answers true _)
    exact .of_same rfl rfl rfl
  · apply Follows.trans _ (answers false _)
    exact .of_same rfl rfl rfl

private theorem coming_later (rehearsal : Rehearsal) :
    ∀ signal ∈ rehearsal.coming, rehearsal.now < signal.1 ∧ signal.2 = .request := by
  intro signal member
  unfold coming at member
  split at member
  · split at member
    next later =>
      obtain rfl := List.mem_singleton.mp member
      exact ⟨later, rfl⟩
    next => cases member
  · cases member

private theorem now_le_elapse (rehearsal : Rehearsal) (milliseconds : Nat) :
    rehearsal.now ≤ (rehearsal.elapse milliseconds).2 := by
  unfold elapse
  exact Line.le_cut (Nat.le_add_right _ _) fun signal member =>
    Nat.le_of_lt (rehearsal.coming_later signal member).1

private theorem follows_reply (rehearsal : Rehearsal) (request : Request) :
    Follows rehearsal (rehearsal.reply request).2 := by
  cases request with
  | document | shutdown => exact .refl
  | snapshot => exact follows_deliver fun _ _ => .refl
  | publish site files message =>
    apply follows_deliver
    intro changed called
    cases changed <;> exact .of_same rfl rfl rfl
  | reset head => exact follows_deliver fun _ _ => .of_same rfl rfl rfl
  | status | confirm => exact .of_same rfl rfl rfl
  | fetch target => exact .of_elapse (now_le_elapse _ _)
  | wait milliseconds => exact .of_elapse (now_le_elapse _ _)
  | pause milliseconds => exact .of_elapse (Nat.le_add_right _ _)

private theorem follows_environment (rehearsal : Rehearsal) (request : Request) :
    Follows rehearsal (environment request rehearsal).2 :=
  (follows_begin rehearsal request).trans (follows_reply _ request)

theorem Follows.uninterrupted (follows : Follows before after) (interrupted : before.interrupted = false)
    (other : ∀ name, before.script.interruption ≠ .on name) : after.interrupted = false := by
  cases now : after.interrupted with
  | false => rfl
  | true =>
    rcases follows.caused now with already | ⟨name, caused⟩
    · rw [interrupted] at already
      cases already
    · exact absurd caused (other name)

/-- The line after a request is the line before with what came over it. -/
theorem Follows.line_eq (follows : Follows before after) :
    after.line = before.line.afterAll (before.signals after) := by
  have still := follows.uninterrupted
  unfold line signals
  rw [follows.script]
  cases interrupted : before.interrupted with
  | true =>
    rw [follows.kept interrupted]
    exact (Line.requested_afterAll _).symm
  | false =>
    cases interruption : before.script.interruption with
    | never | dropped | atStart => simp [still interrupted (by simp [interruption]), Line.afterAll]
    | after time =>
      have onward := follows.onward
      rw [still interrupted (by simp [interruption])]
      by_cases past : time ≤ before.now
      · have later : time ≤ after.now := Nat.le_trans past onward
        simp [past, later, Nat.not_lt_of_le past, Line.afterAll]
      · by_cases reached : time ≤ after.now <;>
          simp [past, reached, Nat.lt_of_not_le past, Line.afterAll, Line.after]
    | on name => cases after.interrupted <;> simp [Line.afterAll, Line.after]

theorem coming_cases (rehearsal : Rehearsal) :
    (rehearsal.coming = [] ∧ ∀ now, rehearsal.signals { rehearsal with now } = []) ∨
      ∃ time, rehearsal.coming = [(time, .request)] ∧
        ∀ now, rehearsal.signals { rehearsal with now } = if time ≤ now then [(time, .request)] else [] := by
  unfold coming signals
  cases rehearsal.script.interruption with
  | never | dropped | atStart => exact .inl ⟨rfl, fun _ => rfl⟩
  | after time =>
    by_cases past : rehearsal.now < time
    · exact .inr ⟨time, by simp [past], fun now => by simp [past]⟩
    · exact .inl ⟨by simp [past], fun now => by simp [past]⟩
  | on name => exact .inl ⟨rfl, fun _ => by simp⟩

private theorem ends_elapse (rehearsal : Rehearsal) (milliseconds : Nat)
    (untied : (rehearsal.elapse milliseconds).1 = false → ((rehearsal.elapse milliseconds).2, Signal.request) ∉
      rehearsal.signals { rehearsal with now := (rehearsal.elapse milliseconds).2 }) :
    rehearsal.line.Ends rehearsal.now
      (rehearsal.signals { rehearsal with now := (rehearsal.elapse milliseconds).2 })
      (rehearsal.now + milliseconds) (rehearsal.elapse milliseconds).1 (rehearsal.elapse milliseconds).2 := by
  unfold elapse at untied ⊢
  obtain ⟨none, silent⟩ | ⟨time, one, comes⟩ := rehearsal.coming_cases
  · rw [none, silent]
    exact ⟨_, Nat.le_refl _, List.not_mem_nil, rfl⟩
  · have later := (rehearsal.coming_later _ (one ▸ List.mem_singleton_self _)).1
    dsimp only at later
    rw [one, comes] at untied ⊢
    generalize rehearsal.line = line at untied ⊢
    cases line with
    | requested =>
      rw [Line.cut_requested, if_neg (Nat.not_le_of_lt later)]
      exact ⟨_, Nat.le_refl _, List.not_mem_nil, Line.cut_requested⟩
    | dropped =>
      rw [Line.cut_dropped] at untied ⊢
      exact ⟨_, Nat.le_refl _, untied rfl, Line.cut_dropped⟩
    | quiet =>
      rw [Line.cut_quiet_request] at untied ⊢
      by_cases sooner : time < rehearsal.now + milliseconds
      · rw [if_pos sooner, if_pos (Nat.le_refl time)]
        refine ⟨_, Nat.le_refl _, ?_, by rw [Line.cut_quiet_request, if_pos sooner]⟩
        simpa using Nat.ne_of_gt sooner
      · rw [if_neg sooner] at untied ⊢
        by_cases reached : time ≤ rehearsal.now + milliseconds
        · have tied := untied rfl
          rw [if_pos reached, Nat.le_antisymm reached (Nat.le_of_not_lt sooner)] at tied
          exact absurd (List.mem_singleton_self _) tied
        · rw [if_neg reached]
          exact ⟨_, Nat.le_refl _, List.not_mem_nil, Line.cut_quiet_nil⟩

private theorem begin_cases (rehearsal : Rehearsal) (request : Request) :
    rehearsal.begin request = rehearsal ∨
      (rehearsal.interrupted = false ∧ (∃ name, rehearsal.script.interruption = .on name) ∧
        rehearsal.begin request = { rehearsal with interrupted := true }) := by
  unfold begin
  split
  next name label caused _ =>
    by_cases newly : rehearsal.interrupted = false ∧ name = label
    · exact .inr ⟨newly.1, ⟨name, caused⟩, by simp [newly.2]⟩
    · have same : (rehearsal.interrupted || decide (name = label)) = rehearsal.interrupted := by
        cases interrupted : rehearsal.interrupted <;> simp_all
      exact .inl (by rw [same])
  next => exact .inl rfl

theorem begin_of_no_label {request : Request} (unnamed : request.label? = none) :
    rehearsal.begin request = rehearsal := by
  unfold begin
  rw [unnamed]
  cases rehearsal.script.interruption <;> rfl

private theorem reply_fetch (rehearsal : Rehearsal) (target : String) :
    ∃ canned : CannedMetrics, rehearsal.reply (.fetch target) =
      (if (rehearsal.elapse canned.delay).1 then none else some canned.result,
        { rehearsal with now := (rehearsal.elapse canned.delay).2 }) :=
  ⟨_, rfl⟩

/-- The start of the fetch may itself request shutdown, and then the fetch is over at once. -/
theorem answers_fetch (rehearsal : Rehearsal) (target : String)
    (untied : ¬ Moment.Tied ⟨⟨.fetch target, (environment (.fetch target) rehearsal).1⟩,
      rehearsal.signals (environment (.fetch target) rehearsal).2⟩) :
    rehearsal.line.Answers rehearsal.now (rehearsal.signals (environment (.fetch target) rehearsal).2)
      ⟨.fetch target, (environment (.fetch target) rehearsal).1⟩ := by
  obtain same | ⟨interrupted, ⟨name, caused⟩, newly⟩ := rehearsal.begin_cases (.fetch target)
  · obtain ⟨canned, fetched⟩ := rehearsal.reply_fetch target
    have replied : environment (.fetch target) rehearsal =
        (⟨if (rehearsal.elapse canned.delay).1 then none else some canned.result,
          (rehearsal.elapse canned.delay).2⟩,
          { rehearsal with now := (rehearsal.elapse canned.delay).2 }) := by
      rw [environment, same, fetched]
    rw [replied] at untied ⊢
    obtain ⟨finish, long, apart, cut⟩ := rehearsal.ends_elapse canned.delay
      fun unheard came => untied ⟨rfl, by rw [unheard]; rfl, came⟩
    refine ⟨finish, Nat.le_trans (Nat.le_add_right _ _) long, apart, ?_⟩
    rw [cut]
    cases (rehearsal.elapse canned.delay).1 <;> rfl
  · have replied : environment (.fetch target) rehearsal =
        (⟨none, rehearsal.now⟩, { rehearsal with interrupted := true }) := by
      rw [environment, newly]
      rfl
    have quiet : rehearsal.line = .quiet := by simp [line, interrupted, caused]
    have came : rehearsal.signals { rehearsal with interrupted := true } =
        [(rehearsal.now, Signal.request)] := by simp [signals, interrupted, caused]
    rw [replied, quiet, came]
    refine ⟨rehearsal.now + 1, Nat.le_add_right _ _, by simp, ?_⟩
    rw [Line.cut_quiet_request, if_pos (Nat.lt_succ_self _)]
    rfl

/-- A rehearsal answers as the line allows, unless a wait is over when the request comes. -/
theorem answers_environment (rehearsal : Rehearsal) (request : Request)
    (untied : ¬ Moment.Tied ⟨⟨request, (environment request rehearsal).1⟩,
      rehearsal.signals (environment request rehearsal).2⟩) :
    rehearsal.line.Answers rehearsal.now (rehearsal.signals (environment request rehearsal).2)
      ⟨request, (environment request rehearsal).1⟩ := by
  cases request with
  | document | snapshot | publish | reset | status | confirm | pause => trivial
  | shutdown =>
    have replied : environment .shutdown rehearsal =
        (⟨rehearsal.line.isRequested, rehearsal.now⟩, rehearsal) := by
      rw [environment, begin_of_no_label rfl]
      rfl
    rw [replied]
    exact congrArg Line.isRequested Follows.refl.line_eq
  | wait milliseconds =>
    have replied : environment (.wait milliseconds) rehearsal =
        (⟨(rehearsal.elapse milliseconds).1, (rehearsal.elapse milliseconds).2⟩,
          { rehearsal with now := (rehearsal.elapse milliseconds).2 }) := by
      rw [environment, begin_of_no_label rfl]
      rfl
    rw [replied] at untied ⊢
    exact rehearsal.ends_elapse milliseconds fun unheard came => untied ⟨rfl, by rw [unheard]; rfl, came⟩
  | fetch target => exact rehearsal.answers_fetch target untied

private theorem signals_inside (follows : Follows before after) :
    ∀ signal ∈ before.signals after, before.now ≤ signal.1 ∧ signal.1 ≤ after.now := by
  intro signal member
  have onward := follows.onward
  unfold signals at member
  split at member
  · split at member
    next inside =>
      obtain rfl := List.mem_singleton.mp member
      exact ⟨Nat.le_of_lt inside.1, inside.2⟩
    next => cases member
  · split at member
    next =>
      obtain rfl := List.mem_singleton.mp member
      exact ⟨Nat.le_refl _, onward⟩
    next => cases member
  · cases member

/-- Rehearsals are watched, unless a wait is over when the request comes. -/
theorem watched {α : Type} (plan : Plan α) (rehearsal : Rehearsal)
    (untied : ∀ moment ∈ moments plan rehearsal, ¬ moment.Tied) :
    Watched rehearsal.line rehearsal.now (moments plan rehearsal) := by
  induction plan generalizing rehearsal with
  | done value => exact ⟨.done, .done⟩
  | ask request next ih =>
    have follows := rehearsal.follows_environment request
    have later := ih (environment request rehearsal).1 (environment request rehearsal).2
      fun moment member => untied moment (List.mem_cons_of_mem _ member)
    rw [follows.line_eq] at later
    have answers := rehearsal.answers_environment request (untied _ List.mem_cons_self)
    exact ⟨.next follows.onward (signals_inside follows) later.clocked, .next answers later.answered⟩

end Rehearsal

end IntentRollout
