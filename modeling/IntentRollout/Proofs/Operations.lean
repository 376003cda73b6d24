import IntentRollout.Proofs.StopSignals

/-! How often an attempt looks for shutdown. Between two looks it does one thing, if any: it reads the
document, asks for consent or for the state of a target, or makes one call of the delivery tree, again
if it must. So a request at any time meets one operation at most before it is seen. -/

namespace IntentRollout

inductive Operation (attempts : Nat) : List Exchange → Prop where
  | none : Operation attempts []
  | document {path reply} : Operation attempts [⟨.document path, reply⟩]
  | consent {phase reply} : Operation attempts [⟨.confirm phase, reply⟩]
  | status {target revision reply} : Operation attempts [⟨.status target revision, reply⟩]
  | snapshot {trace result} (tried : Tried .snapshot attempts trace result) : Operation attempts trace
  | publish {site files message trace result}
      (tried : Tried (.publish site files message) attempts trace result) : Operation attempts trace

/-- Looks for shutdown with an operation after each. A fetch comes right after a look and is one itself. -/
inductive Paced (attempts : Nat) : List Exchange → Prop where
  | done : Paced attempts []
  | looked {look operation rest}
      (looks : look.request = .shutdown ∨ ∃ milliseconds, look.request = .wait milliseconds)
      (operated : Operation attempts operation) (others : Paced attempts rest) :
      Paced attempts (look :: (operation ++ rest))
  | fetched {look fetch rest} (looks : look.request = .shutdown)
      (fetches : ∃ target, fetch.request = .fetch target) (others : Paced attempts rest) :
      Paced attempts (look :: fetch :: rest)

variable {attempts : Nat} {trace first rest earlier later : List Exchange} {look : Exchange}

namespace Paced

theorem append (before : Paced attempts first) (after : Paced attempts rest) :
    Paced attempts (first ++ rest) := by
  induction before with
  | done => exact after
  | @looked look operation others looks operated _ ih =>
    have appended := Paced.looked looks operated ih
    rwa [← List.append_assoc] at appended
  | fetched looks fetches _ ih => exact .fetched looks fetches ih

private theorem look_cons (looks : look.request = .shutdown ∨ ∃ milliseconds, look.request = .wait milliseconds)
    (others : Paced attempts rest) : Paced attempts (look :: rest) :=
  .looked looks .none others

private theorem of_operation (looks : look.request = .shutdown ∨ ∃ milliseconds, look.request = .wait milliseconds)
    (operated : Operation attempts trace) : Paced attempts (look :: trace) := by
  have paced := Paced.looked looks operated .done
  rwa [List.append_nil] at paced

theorem head (paced : Paced attempts (look :: rest)) :
    look.request = .shutdown ∨ ∃ milliseconds, look.request = .wait milliseconds := by
  generalize same : look :: rest = trace at paced
  cases paced with
  | done => cases same
  | looked looks => cases same; exact looks
  | fetched looks => cases same; exact .inl looks

theorem observes (looks : look.request = .shutdown ∨ ∃ milliseconds, look.request = .wait milliseconds) :
    look.request.observes = true := by
  obtain same | ⟨milliseconds, same⟩ := looks <;> rw [same] <;> rfl

/-- Wherever paced exchanges are split, either a look was the last, or one operation is under way. -/
theorem split (paced : Paced attempts (earlier ++ later)) (begun : earlier ≠ []) :
    (∃ front look, earlier = front ++ [look] ∧ look.request.observes = true) ∨
      ∃ front made remaining rest, earlier = front ++ made ∧ later = remaining ++ rest ∧ made ≠ [] ∧
        Operation attempts (made ++ remaining) ∧ Paced attempts rest := by
  generalize whole : earlier ++ later = trace at paced
  induction paced generalizing earlier with
  | done => exact absurd (List.append_eq_nil_iff.mp whole).1 begun
  | @looked look operation rest looks operated others ih =>
    obtain _ | ⟨first, started⟩ := earlier
    · exact absurd rfl begun
    · obtain ⟨rfl, tails⟩ := List.cons.inj whole
      by_cases some : started = []
      · exact .inl ⟨[], first, by rw [some]; rfl, observes looks⟩
      · rcases List.append_eq_append_iff.mp tails with ⟨remaining, rfl, rfl⟩ | ⟨onward, rfl, rfl⟩
        · exact .inr ⟨[first], started, remaining, rest, rfl, rfl, some, operated, others⟩
        · cases onward with
          | nil =>
            rw [List.append_nil] at some
            refine .inr ⟨[first], operation, [], later, by simp, rfl, some, ?_, others⟩
            rwa [List.append_nil]
          | cons next onward =>
            obtain ⟨front, look, same, observes⟩ | ⟨front, made, remaining, rest, same, ended, underway⟩ :=
              ih (by simp) rfl
            · exact .inl ⟨first :: (operation ++ front), look, by simp [same], observes⟩
            · exact .inr ⟨first :: (operation ++ front), made, remaining, rest, by simp [same], ended, underway⟩
  | @fetched look fetch rest looks fetches others ih =>
    obtain _ | ⟨first, started⟩ := earlier
    · exact absurd rfl begun
    · obtain ⟨rfl, tails⟩ := List.cons.inj whole
      obtain _ | ⟨second, onward⟩ := started
      · exact .inl ⟨[], first, rfl, observes (.inl looks)⟩
      · obtain ⟨rfl, ends⟩ := List.cons.inj tails
        by_cases some : onward = []
        · obtain ⟨target, same⟩ := fetches
          exact .inl ⟨[first], second, by rw [some]; rfl, by rw [same]; rfl⟩
        · obtain ⟨front, look, same, observes⟩ | ⟨front, made, remaining, rest, same, ended, underway⟩ :=
            ih some ends
          · exact .inl ⟨first :: second :: front, look, by simp [same], observes⟩
          · exact .inr ⟨first :: second :: front, made, remaining, rest, by simp [same], ended, underway⟩

end Paced

theorem Entered.paced {rollout : Rollout} {phase : Phase} {result : Except Halt Unit}
    (entered : Entered rollout phase trace result) : Paced attempts trace := by
  cases entered with
  | interrupted | free => exact .look_cons (.inl rfl) .done
  | refused => exact .of_operation (.inl rfl) .consent
  | withdrawn | agreed => exact .looked (.inl rfl) .consent (.look_cons (.inl rfl) .done)

private theorem Entered.paced_append {rollout : Rollout} {phase : Phase}
    (entered : Entered rollout phase first (.ok ()))
    (onward : ∀ look : Exchange, look.request = .shutdown → Paced attempts (look :: rest)) :
    Paced attempts (first ++ rest) := by
  cases entered with
  | free => exact onward _ rfl
  | agreed => exact @Paced.looked _ _ [_] _ (.inl rfl) .consent (onward _ rfl)

private theorem Entered.paced_operation {rollout : Rollout} {phase : Phase}
    (entered : Entered rollout phase first (.ok ())) (operated : Operation attempts rest) :
    Paced attempts (first ++ rest) :=
  entered.paced_append fun _ looks => .of_operation (.inl looks) operated

theorem Polled.paced {target : String} {revision : Option String} {convergence : Convergence}
    (polled : Polled target revision trace convergence)
    (looks : look.request = .shutdown ∨ ∃ milliseconds, look.request = .wait milliseconds) :
    Paced attempts (look :: trace) := by
  induction polled generalizing look with
  | synced | failed | expired => exact .of_operation looks .status
  | exhausted => exact .look_cons looks .done
  | interrupted => exact .looked looks .status (.look_cons (.inr ⟨_, rfl⟩) .done)
  | again _ _ ih => exact .looked looks .status (ih (.inr ⟨_, rfl⟩))

theorem Awaited.paced {watched : Bool} {target : String} {revision : Option String}
    {settings : VerifySettings} {convergence : Convergence}
    (awaited : Awaited watched target revision settings trace convergence)
    (looks : look.request = .shutdown) : Paced attempts (look :: trace) := by
  cases awaited with
  | elapsed | interrupted => exact .look_cons (.inl looks) (.look_cons (.inr ⟨_, rfl⟩) .done)
  | polled _ polled => exact polled.paced (.inl looks)

namespace Attempt

variable {rollout : Rollout} {started : Instant} {before after : Standing}

theorem Snapshotting.paced {result : Except Halt Unit}
    (snapshotting : Snapshotting rollout before trace result after) :
    Paced rollout.options.retry.attempts trace := by
  cases snapshotting with
  | halted entered => exact entered.paced
  | refused entered tried | taken entered tried => exact entered.paced_operation (.snapshot tried)

theorem Validating.paced {source : IntentSource} {requested : List String}
    {result : Except Halt (Intent × List String × Gate)}
    (validating : Validating rollout source requested before trace result after) :
    Paced attempts trace := by
  have provided_operation {source : IntentSource} {trace : List Exchange} {document : Json}
      (provided : Provided source trace document) : Operation attempts trace := by
    cases provided with
    | read => exact .document
    | given => exact .none
  cases validating with
  | halted entered => exact entered.paced
  | unreadable entered => exact entered.paced_operation .document
  | malformed entered provided | refused entered provided | accepted entered provided =>
    exact entered.paced_operation (provided_operation provided)

theorem Rendering.paced {intent : Intent} {targets : List String} {result : Except Halt Compilation}
    (rendering : Rendering rollout started intent targets before trace result after) :
    Paced attempts trace := by
  cases rendering with
  | halted entered | refused entered | compiled entered => exact entered.paced

theorem Publishing.paced {intent : Intent} {compilation : Compilation} {target : String}
    {result : Except Halt (Option String)}
    (publishing : Publishing rollout started intent compilation target before trace result after) :
    Paced rollout.options.retry.attempts trace := by
  cases publishing with
  | halted entered | rehearsed entered => exact entered.paced
  | refused entered _ tried | published entered _ tried => exact entered.paced_operation (.publish tried)

theorem Verifying.paced {target : String} {revision : Option String} {result : Except Halt Unit}
    (verifying : Verifying rollout target revision before trace result after) :
    Paced attempts trace := by
  cases verifying with
  | halted entered | rehearsed entered => exact entered.paced
  | converged entered _ awaited | interrupted entered _ awaited | diverged entered _ awaited =>
    exact entered.paced_append fun _ looks => awaited.paced looks

theorem Gating.paced {objectives : Gate} {target : String} {result : Except Halt Unit}
    (gating : Gating rollout objectives target before trace result after) : Paced attempts trace := by
  cases gating with
  | halted entered | rehearsed entered => exact entered.paced
  | interrupted entered | passed entered | violated entered | unclear entered =>
    exact entered.paced_append fun _ looks => .fetched looks ⟨target, rfl⟩ .done

theorem Serving.paced {intent : Intent} {compilation : Compilation} {objectives : Gate}
    {target : String} {result : Except Halt Unit}
    (serving : Serving rollout started intent compilation objectives target before trace result after) :
    Paced rollout.options.retry.attempts trace := by
  cases serving with
  | unpublished publishing => exact publishing.paced
  | unverified publishing verifying => exact publishing.paced.append verifying.paced
  | gated publishing verifying gating =>
    exact publishing.paced.append (verifying.paced.append gating.paced)

theorem ServingAll.paced {intent : Intent} {compilation : Compilation} {objectives : Gate}
    {targets : List String} {result : Except Halt Unit}
    (serving : ServingAll rollout started intent compilation objectives targets before trace result after) :
    Paced rollout.options.retry.attempts trace := by
  induction serving with
  | done => exact .done
  | stopped serving => exact serving.paced
  | passed serving _ ih => exact serving.paced.append ih

theorem Driving.paced {source : IntentSource} {requested : List String} {result : Except Halt Unit}
    (driving : Driving rollout started source requested before trace result after) :
    Paced rollout.options.retry.attempts trace := by
  cases driving with
  | unremembered snapshotting => exact snapshotting.paced
  | invalid snapshotting validating => exact snapshotting.paced.append validating.paced
  | unrendered snapshotting validating rendering =>
    exact snapshotting.paced.append (validating.paced.append rendering.paced)
  | served snapshotting validating rendering serving =>
    exact snapshotting.paced.append
      (validating.paced.append (rendering.paced.append serving.paced))

end Attempt

end IntentRollout
