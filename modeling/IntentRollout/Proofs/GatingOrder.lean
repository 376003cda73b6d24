import IntentRollout.Proofs.GateVerdicts
import IntentRollout.Proofs.RollbackLaw
import IntentRollout.Proofs.StopSignals

/-! The order of calls. A head is remembered first; then one target after the other is published, waited
for and gated, each only if the one before passed; last the tree is put back. The order is a language of
calls, and every attempt speaks it. -/

namespace IntentRollout

/-- What an attempt calls and waits for, without its retries' pauses, looks for shutdown and consent. -/
def acted (trace : List Exchange) : List Exchange := trace.filter fun exchange => exchange.request.acts

@[simp] theorem acted_append (first rest : List Exchange) :
    acted (first ++ rest) = acted first ++ acted rest :=
  List.filter_append first rest

/-- The calls for one target, and whether they let the next target come. It is published as often as it
takes, waited for only if that succeeded and with the revision that came of it, and its metrics are
fetched once and only if the wait ended well. -/
inductive Visited (rollout : Rollout) (objectives : Gate) (target : String) (files : List RenderedFile)
    (message : String) : List Exchange → Bool → Prop where
  | unpublished {replies error}
      (tried : TriedOut rollout.options.retry.attempts replies (.error error)) :
      Visited rollout objectives target files message (replies.map (.publish target files message)) false
  | unawaited {replies revision}
      (tried : TriedOut rollout.options.retry.attempts replies (.ok revision)) :
      Visited rollout objectives target files message (replies.map (.publish target files message)) false
  | ungated {replies revision waiting convergence}
      (tried : TriedOut rollout.options.retry.attempts replies (.ok revision))
      (awaited : Awaited (rollout.watches target) target revision rollout.options.verify waiting
        convergence) :
      Visited rollout objectives target files message
        (replies.map (.publish target files message) ++ waiting) false
  | judged {replies revision waiting convergence reply}
      (tried : TriedOut rollout.options.retry.attempts replies (.ok revision))
      (awaited : Awaited (rollout.watches target) target revision rollout.options.verify waiting
        convergence)
      (converged : convergence = .synced ∨ convergence = .gracePeriodElapsed) :
      Visited rollout objectives target files message
        (replies.map (.publish target files message) ++ (waiting ++ [⟨.fetch target, reply⟩])) false
  | passed {replies revision waiting convergence metrics time}
      (tried : TriedOut rollout.options.retry.attempts replies (.ok revision))
      (awaited : Awaited (rollout.watches target) target revision rollout.options.verify waiting
        convergence)
      (converged : convergence = .synced ∨ convergence = .gracePeriodElapsed)
      (met : ∀ constraint ∈ objectives.constraints, constraint.Met metrics) :
      Visited rollout objectives target files message
        (replies.map (.publish target files message) ++
          (waiting ++ [⟨.fetch target, ⟨some (.ok metrics), time⟩⟩])) true

inductive VisitedInTurn (rollout : Rollout) (objectives : Gate) (files : String → List RenderedFile)
    (message : String → String) : List String → List Exchange → Prop where
  | none {targets} : VisitedInTurn rollout objectives files message targets []
  | last {target targets trace passed}
      (visited : Visited rollout objectives target (files target) (message target) trace passed) :
      VisitedInTurn rollout objectives files message (target :: targets) trace
  | onward {target targets first rest}
      (visited : Visited rollout objectives target (files target) (message target) first true)
      (others : VisitedInTurn rollout objectives files message targets rest) :
      VisitedInTurn rollout objectives files message (target :: targets) (first ++ rest)

inductive ReturnedTo (attempts : Nat) (head : String) : List Exchange → Prop where
  | none : ReturnedTo attempts head []
  | tried {replies result} (tried : TriedOut attempts replies result) :
      ReturnedTo attempts head (replies.map (.reset head))

/-- The order of the calls of an attempt. Without a head, a valid intent that has all required fields, and its resources,
no target is called; the tree is put back only after a target was. -/
inductive CallOrder (rollout : Rollout) (started : Instant) (source : IntentSource)
    (requested : List String) (trace : List Exchange) : List Exchange → Prop where
  | interrupted : CallOrder rollout started source requested trace []
  | unprepared {replies result} (tried : TriedOut rollout.options.retry.attempts replies result) :
      CallOrder rollout started source requested trace (replies.map .snapshot)
  | prepared {replies head document intent targets objectives compilation visits resets}
      (taken : TriedOut rollout.options.retry.attempts replies (.ok head))
      (provided : source = .document document ∨
        ∃ path time, source = .file path ∧ ⟨.document path, ⟨.ok document, time⟩⟩ ∈ trace)
      (read : Intent.ofJson document = .ok intent)
      (complete : intent.missingFields rollout.options.requiredFields = [])
      (resolved : Attempt.targets rollout.config intent requested = .ok targets)
      (distinct : targets.Nodup)
      (stated : Gate.read rollout.options.slo = .ok objectives)
      (compiled : rollout.config.compileFor started intent targets = .ok compilation)
      (visited : VisitedInTurn rollout objectives (Attempt.filesFor compilation)
        (Attempt.commitMessage started intent) targets visits)
      (returned : ReturnedTo rollout.options.retry.attempts head resets)
      (mutated : resets ≠ [] → visits ≠ []) :
      CallOrder rollout started source requested trace (replies.map .snapshot ++ (visits ++ resets))

private theorem acted_eq_nil {trace : List Exchange} (idle : ∀ exchange ∈ trace, exchange.request.acts = false) :
    acted trace = [] := by
  simpa [acted, List.filter_eq_nil_iff] using idle

private theorem acted_eq_self {trace : List Exchange} (acts : ∀ exchange ∈ trace, exchange.request.acts = true) :
    acted trace = trace :=
  List.filter_eq_self.mpr acts

private theorem publishes_acted (trace : List Exchange) : publishes (acted trace) = publishes trace := by
  have published (exchange : Exchange) :
      (exchange.request.acts && exchange.request.isPublish) = exchange.request.isPublish := by
    cases exchange.request <;> rfl
  simp only [publishes, acted, List.any_filter, published]

theorem publishes_map_snapshot (replies : List (Timed (Except DeliveryError String))) :
    publishes (replies.map .snapshot) = false := by
  simp [publishes, Request.isPublish]

private theorem Entered.acted_nil {rollout : Rollout} {phase : Phase} {trace : List Exchange}
    {result : Except Halt Unit} (entered : Entered rollout phase trace result) : acted trace = [] :=
  acted_eq_nil entered.no_acts

private theorem Entered.acted_append {rollout : Rollout} {phase : Phase} {first : List Exchange}
    {result : Except Halt Unit} (entered : Entered rollout phase first result) (rest : List Exchange) :
    acted (first ++ rest) = acted rest := by
  rw [IntentRollout.acted_append, entered.acted_nil, List.nil_append]

theorem Tried.calls {α : Type} {exchange : Timed (Except DeliveryError α) → Exchange} {left : Nat}
    {trace : List Exchange} {result : Except DeliveryError α} (tried : Tried exchange left trace result)
    (acts : ∀ reply, (exchange reply).request.acts = true) :
    ∃ replies, acted trace = replies.map exchange ∧ TriedOut left replies result :=
  tried.triedOut acts fun _ _ => rfl

theorem Polled.acts {target : String} {revision : Option String} {trace : List Exchange}
    {convergence : Convergence} (polled : Polled target revision trace convergence) :
    ∀ exchange ∈ trace, exchange.request.acts = true := by
  induction polled with
  | synced | failed | expired | exhausted | interrupted => simp [Request.acts, Request.isCall]
  | again _ _ ih => simpa [Request.acts, Request.isCall] using ih

private theorem Awaited.acted_self {watched : Bool} {target : String} {revision : Option String}
    {settings : VerifySettings} {trace : List Exchange} {convergence : Convergence}
    (awaited : Awaited watched target revision settings trace convergence) : acted trace = trace := by
  cases awaited with
  | elapsed | interrupted => rfl
  | polled _ polled => exact acted_eq_self polled.acts

private theorem Convergence.isSuccess_iff {convergence : Convergence} :
    convergence.isSuccess = true ↔ convergence = .synced ∨ convergence = .gracePeriodElapsed := by
  cases convergence <;> simp [Convergence.isSuccess]

namespace Attempt

variable {rollout : Rollout} {started : Instant} {before after : Standing} {trace : List Exchange}
  {intent : Intent} {compilation : Compilation} {objectives : Gate} {target : String}

theorem Publishing.calls {result : Except Halt (Option String)}
    (publishing : Publishing rollout started intent compilation target before trace result after) :
    (acted trace = [] ∧ ∀ revision, result = .ok revision → rollout.options.dryRun = true) ∨
      (rollout.options.dryRun = false ∧ ∃ replies publication,
        acted trace =
          replies.map (.publish target (filesFor compilation target) (commitMessage started intent target)) ∧
        TriedOut rollout.options.retry.attempts replies publication ∧
        ∀ revision, result = .ok revision → publication = .ok revision) := by
  cases publishing with
  | halted entered => exact .inl ⟨entered.acted_nil, nofun⟩
  | rehearsed entered dry => exact .inl ⟨entered.acted_nil, fun _ _ => dry⟩
  | refused entered real tried =>
    obtain ⟨replies, same, tried⟩ := tried.calls fun _ => rfl
    rw [entered.acted_append, same]
    exact .inr ⟨real, replies, _, rfl, tried, nofun⟩
  | published entered real tried =>
    obtain ⟨replies, same, tried⟩ := tried.calls fun _ => rfl
    rw [entered.acted_append, same]
    refine .inr ⟨real, replies, _, rfl, tried, ?_⟩
    intro other same
    cases same
    rfl

theorem Verifying.calls {revision : Option String} {result : Except Halt Unit}
    (verifying : Verifying rollout target revision before trace result after) :
    (acted trace = [] ∧ (result = .ok () → rollout.options.dryRun = true)) ∨
      (rollout.options.dryRun = false ∧ ∃ convergence,
        Awaited (rollout.watches target) target revision rollout.options.verify (acted trace)
          convergence ∧
        (result = .ok () → convergence = .synced ∨ convergence = .gracePeriodElapsed)) := by
  cases verifying with
  | halted entered => exact .inl ⟨entered.acted_nil, nofun⟩
  | rehearsed entered dry => exact .inl ⟨entered.acted_nil, fun _ => dry⟩
  | converged entered real awaited success =>
    rw [entered.acted_append, awaited.acted_self]
    exact .inr ⟨real, _, awaited, fun _ => Convergence.isSuccess_iff.mp success⟩
  | interrupted entered real awaited | diverged entered real awaited =>
    rw [entered.acted_append, awaited.acted_self]
    exact .inr ⟨real, _, awaited, nofun⟩

theorem Gating.calls {result : Except Halt Unit}
    (gating : Gating rollout objectives target before trace result after) :
    (acted trace = [] ∧ (result = .ok () → rollout.options.dryRun = true)) ∨
      (rollout.options.dryRun = false ∧ ∃ reply, acted trace = [⟨.fetch target, reply⟩] ∧
        (result = .ok () → ∃ metrics, reply.value = some (.ok metrics) ∧
          ∀ constraint ∈ objectives.constraints, constraint.Met metrics)) := by
  cases gating with
  | halted entered => exact .inl ⟨entered.acted_nil, nofun⟩
  | rehearsed entered dry => exact .inl ⟨entered.acted_nil, fun _ => dry⟩
  | interrupted entered real | violated entered real | unclear entered real =>
    rw [entered.acted_append]
    exact .inr ⟨real, _, rfl, nofun⟩
  | passed entered real passed =>
    obtain ⟨metrics, rfl, met⟩ := Gate.check_eq_ok.mp passed
    rw [entered.acted_append]
    exact .inr ⟨real, _, rfl, fun _ => ⟨metrics, rfl, met⟩⟩

theorem Serving.calls {result : Except Halt Unit}
    (serving : Serving rollout started intent compilation objectives target before trace result after) :
    (acted trace = [] ∧ (result = .ok () → rollout.options.dryRun = true)) ∨
      (rollout.options.dryRun = false ∧ ∃ passed,
        Visited rollout objectives target (filesFor compilation target)
          (commitMessage started intent target) (acted trace) passed ∧
        (result = .ok () → passed = true)) := by
  have dry_or_real (dry : rollout.options.dryRun = true) (real : rollout.options.dryRun = false) : False := by
    rw [dry] at real
    cases real
  cases serving with
  | unpublished publishing =>
    obtain ⟨idle, _⟩ | ⟨real, replies, publication, called, tried, _⟩ := publishing.calls
    · exact .inl ⟨idle, nofun⟩
    · rw [called]
      cases publication with
      | error error => exact .inr ⟨real, false, .unpublished tried, nofun⟩
      | ok revision => exact .inr ⟨real, false, .unawaited tried, nofun⟩
  | @unverified _ revision _ _ _ _ publishing verifying =>
    rw [acted_append]
    obtain ⟨idle, dry⟩ | ⟨real, replies, publication, called, tried, published⟩ := publishing.calls
    · obtain ⟨still, _⟩ | ⟨real, _⟩ := verifying.calls
      · exact .inl ⟨by rw [idle, still]; rfl, nofun⟩
      · exact (dry_or_real (dry revision rfl) real).elim
    · obtain rfl := published revision rfl
      obtain ⟨still, _⟩ | ⟨_, convergence, awaited, _⟩ := verifying.calls
      · rw [called, still, List.append_nil]
        exact .inr ⟨real, false, .unawaited tried, nofun⟩
      · rw [called]
        exact .inr ⟨real, false, .ungated tried awaited, nofun⟩
  | @gated _ revision _ _ _ _ _ _ publishing verifying gating =>
    rw [acted_append, acted_append]
    obtain ⟨idle, dry⟩ | ⟨real, replies, publication, called, tried, published⟩ := publishing.calls
    · obtain ⟨still, _⟩ | ⟨real, _⟩ := verifying.calls
      · obtain ⟨quiet, _⟩ | ⟨real, _⟩ := gating.calls
        · exact .inl ⟨by rw [idle, still, quiet]; rfl, fun _ => dry revision rfl⟩
        · exact (dry_or_real (dry revision rfl) real).elim
      · exact (dry_or_real (dry revision rfl) real).elim
    · obtain rfl := published revision rfl
      obtain ⟨_, dry⟩ | ⟨_, convergence, awaited, converged⟩ := verifying.calls
      · exact (dry_or_real (dry rfl) real).elim
      · obtain ⟨quiet, dry⟩ | ⟨_, reply, fetched, judged⟩ := gating.calls
        · rw [called, quiet, List.append_nil]
          exact .inr ⟨real, false, .ungated tried awaited, fun passed => (dry_or_real (dry passed) real).elim⟩
        · rw [called, fetched]
          cases result with
          | error halt => exact .inr ⟨real, false, .judged tried awaited (converged rfl), nofun⟩
          | ok passed =>
            obtain ⟨metrics, value, met⟩ := judged rfl
            obtain ⟨reply, time⟩ := reply
            cases value
            exact .inr ⟨real, true, .passed tried awaited (converged rfl) met, fun _ => rfl⟩

theorem ServingAll.calls {targets : List String} {result : Except Halt Unit}
    (serving : ServingAll rollout started intent compilation objectives targets before trace result after) :
    VisitedInTurn rollout objectives (filesFor compilation) (commitMessage started intent) targets
        (acted trace) ∧
      (rollout.options.dryRun = true → acted trace = []) := by
  induction serving with
  | done => exact ⟨.none, fun _ => rfl⟩
  | stopped serving =>
    obtain ⟨idle, _⟩ | ⟨real, passed, visited, _⟩ := serving.calls
    · rw [idle]
      exact ⟨.none, fun _ => rfl⟩
    · exact ⟨.last visited, fun dry => by simp [dry] at real⟩
  | passed serving _ ih =>
    obtain ⟨others, still⟩ := ih
    rw [acted_append]
    obtain ⟨idle, dry⟩ | ⟨real, passed, visited, same⟩ := serving.calls
    · rw [idle, still (dry rfl)]
      exact ⟨.none, fun _ => rfl⟩
    · obtain rfl := same rfl
      exact ⟨.onward visited others, fun dry => by simp [dry] at real⟩

theorem Snapshotting.calls {result : Except Halt Unit}
    (snapshotting : Snapshotting rollout before trace result after) :
    (acted trace = [] ∧ ∃ halt, result = .error halt) ∨
      ∃ replies taken, acted trace = replies.map .snapshot ∧
        TriedOut rollout.options.retry.attempts replies taken ∧
        (result = .ok () → ∃ head, taken = .ok head ∧ after.snapshot = some head) := by
  cases snapshotting with
  | halted entered => exact .inl ⟨entered.acted_nil, _, rfl⟩
  | refused entered tried =>
    obtain ⟨replies, same, tried⟩ := tried.calls fun _ => rfl
    rw [entered.acted_append, same]
    exact .inr ⟨replies, _, rfl, tried, nofun⟩
  | taken entered tried =>
    obtain ⟨replies, same, tried⟩ := tried.calls fun _ => rfl
    rw [entered.acted_append, same]
    exact .inr ⟨replies, _, rfl, tried, fun _ => ⟨_, rfl, rfl⟩⟩

theorem Validating.calls {source : IntentSource} {requested : List String}
    {result : Except Halt (Intent × List String × Gate)}
    (validating : Validating rollout source requested before trace result after) : acted trace = [] := by
  have provided_nil {source : IntentSource} {trace : List Exchange} {document : Json}
      (provided : Provided source trace document) : acted trace = [] := by
    cases provided <;> rfl
  cases validating with
  | halted entered => exact entered.acted_nil
  | unreadable entered => exact entered.acted_append _
  | malformed entered provided | refused entered provided | accepted entered provided =>
    rw [entered.acted_append, provided_nil provided]

theorem Rendering.calls {result : Except Halt Compilation} {targets : List String}
    (rendering : Rendering rollout started intent targets before trace result after) :
    acted trace = [] := by
  cases rendering with
  | halted entered | refused entered | compiled entered => exact entered.acted_nil

private theorem nodup_eraseDups (targets : List String) : targets.eraseDups.Nodup := by
  cases targets with
  | nil => exact List.nodup_nil
  | cons target others =>
    rw [List.eraseDups_cons, List.nodup_cons]
    exact ⟨by simp [List.mem_eraseDups], nodup_eraseDups (others.filter fun other => !other == target)⟩
termination_by targets.length
decreasing_by exact Nat.lt_succ_of_le (List.length_filter_le _ _)

private theorem requestedTargets_nodup {config : Config} {requested targets : List String}
    (resolved : requestedTargets config requested = .ok targets) : targets.Nodup := by
  unfold requestedTargets at resolved
  simp only [bind, Except.bind] at resolved
  split at resolved
  · cases resolved
  · cases resolved
    exact nodup_eraseDups _

theorem targets_nodup {config : Config} {requested targets : List String}
    (resolved : Attempt.targets config intent requested = .ok targets) : targets.Nodup := by
  unfold Attempt.targets at resolved
  split at resolved <;> exact requestedTargets_nodup resolved

theorem accept_eq_ok {requested targets : List String} : accept rollout intent requested = .ok (targets, objectives) ↔
    intent.missingFields rollout.options.requiredFields = [] ∧
      Attempt.targets rollout.config intent requested = .ok targets ∧
      Gate.read rollout.options.slo = .ok objectives := by
  constructor
  · intro accepted
    unfold accept at accepted
    simp only [bind, Except.bind] at accepted
    split at accepted
    · cases accepted
    next complete =>
      split at accepted
      · cases accepted
      next resolved =>
        split at accepted
        next stated =>
          cases accepted
          exact ⟨by simpa using complete, resolved, stated⟩
        next => cases accepted
  · rintro ⟨complete, resolved, stated⟩
    rw [accept, complete, resolved]
    simp only [stated]
    rfl

theorem Driving.order {source : IntentSource} {requested : List String} {result : Except Halt Unit}
    (driving : Driving rollout started source requested before trace result after)
    {whole resets : List Exchange} (part : ∀ exchange ∈ trace, exchange ∈ whole)
    (untouched : publishes trace = false → resets = [])
    (returned : ∀ head, after.snapshot = some head →
      ReturnedTo rollout.options.retry.attempts head resets) :
    CallOrder rollout started source requested whole (acted trace ++ resets) := by
  have unprepared {replies : List (Timed (Except DeliveryError String))}
      {taken : Except DeliveryError String} (called : acted trace = replies.map .snapshot)
      (tried : TriedOut rollout.options.retry.attempts replies taken) :
      CallOrder rollout started source requested whole (acted trace ++ resets) := by
    rw [untouched (by rw [← publishes_acted, called, publishes_map_snapshot]), called, List.append_nil]
    exact .unprepared tried
  cases driving with
  | unremembered snapshotting =>
    obtain ⟨idle, _⟩ | ⟨replies, taken, called, tried, _⟩ := snapshotting.calls
    · rw [untouched (by rw [← publishes_acted, idle]; rfl), idle]
      exact .interrupted
    · exact unprepared called tried
  | invalid snapshotting validating =>
    obtain ⟨_, _, impossible⟩ | ⟨replies, taken, called, tried, _⟩ := snapshotting.calls
    · cases impossible
    · exact unprepared (by rw [acted_append, called, validating.calls, List.append_nil]) tried
  | unrendered snapshotting validating rendering =>
    obtain ⟨_, _, impossible⟩ | ⟨replies, taken, called, tried, _⟩ := snapshotting.calls
    · cases impossible
    · apply unprepared _ tried
      rw [acted_append, acted_append, called, validating.calls, rendering.calls]
      simp
  | @served first remembered second intent targets objectives valid third compilation rendered rest _ _
      snapshotting validating rendering serving =>
    obtain ⟨_, _, impossible⟩ | ⟨replies, taken, called, tried, known⟩ := snapshotting.calls
    · cases impossible
    · obtain ⟨head, rfl, snapshot⟩ := known rfl
      have tracks := validating.tracks.trans (rendering.tracks.trans serving.tracks)
      obtain ⟨visited, _⟩ := serving.calls
      have calls : acted (first ++ (second ++ (third ++ rest))) ++ resets =
          replies.map .snapshot ++ (acted rest ++ resets) := by
        simp [called, validating.calls, rendering.calls]
      have mutated : resets ≠ [] → acted rest ≠ [] := by
        intro some none
        apply some
        apply untouched
        rw [← publishes_acted]
        simp [called, validating.calls, rendering.calls, none, publishes_map_snapshot]
      rw [calls]
      cases rendering with
      | compiled _ compiled =>
        cases validating with
        | accepted _ provided read accepted =>
          obtain ⟨complete, resolved, stated⟩ := accept_eq_ok.mp accepted
          refine .prepared tried ?_ read complete resolved (targets_nodup resolved) stated compiled visited
            (returned head (tracks.remembers.trans snapshot)) mutated
          cases provided with
          | @read path _ time =>
            refine .inr ⟨path, time, rfl, part _ ?_⟩
            exact List.mem_append_right _ (List.mem_append_left _
              (List.mem_append_right _ (List.mem_singleton_self _)))
          | given => exact .inl rfl

end Attempt

/-- Every attempt calls in order, and publishes only after every answer so far let it go on. -/
theorem Rollout.call_order {rollout : Rollout} {started : Instant} {source : IntentSource}
    {requested : List String} {trace : List Exchange} {conclusion : Conclusion}
    (ran : (rollout.plan started source requested).Run trace conclusion) :
    CallOrder rollout started source requested trace (acted trace) ∧
      ∀ earlier call later, trace = earlier ++ call :: later → call.request.isPublish = true →
        Undisturbed earlier := by
  obtain ⟨driven, result, standing, ended, rfl, driving, concluding⟩ := Rollout.run_plan ran
  have left := driving.driven
  obtain ⟨rfl, _⟩ | ⟨head, restoring, error, report, mutated, remembered, _, tried, _⟩ :=
    concluding.settled left.known left.unrecorded
  · rw [List.append_nil]
    constructor
    · have ordered := driving.order (fun _ member => member) (fun _ => rfl) (fun head _ => .none)
      rwa [List.append_nil] at ordered
    · intro earlier call later split _
      exact driving.heeds.earlier split
  · obtain ⟨replies, called, tries⟩ := tried.calls fun _ => rfl
    constructor
    · rw [acted_append, called]
      apply driving.order
      · intro exchange member
        exact List.mem_append_left _ member
      · intro quiet
        rw [← left.counts, mutated] at quiet
        cases quiet
      · intro other same
        obtain rfl := Option.some_inj.mp (remembered.symm.trans same)
        exact .tried tries
    · intro earlier call later split published
      have absent : call ∉ ended := by
        intro member
        have quiet := (tried.owned fun _ => rfl : Phase.rollback.Owns ended).no_publish (by simp) call member
        rw [published] at quiet
        cases quiet
      obtain ⟨rest, split, _⟩ := split_first split absent
      exact driving.heeds.earlier split

theorem Rollout.call_order_of_refusal :
    (acted (Rehearsal.secondRefused.exchanges Rollout.unattended.both)).map
        (fun exchange => (exchange.request.isPublish, exchange.request.isReset)) =
      [(false, false), (true, false), (false, false), (false, false), (true, false), (false, true),
        (false, true)] ∧
      CallOrder Rollout.unattended ⟨0, 0⟩ .forBoth []
        (Rehearsal.secondRefused.exchanges Rollout.unattended.both)
        (acted (Rehearsal.secondRefused.exchanges Rollout.unattended.both)) :=
  ⟨by decide +kernel, (Rollout.call_order (Rehearsal.secondRefused.ran Rollout.unattended.both)).1⟩

end IntentRollout
