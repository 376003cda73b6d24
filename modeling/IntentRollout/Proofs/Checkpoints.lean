import IntentRollout.Proofs.ReportFiles
import IntentRollout.Proofs.ReportTruth
import IntentRollout.Proofs.StopSignals

/-! Consent at checkpoints. What was asked is at every moment the first part of one fixed list of phases, a
phase calls nothing before it is agreed to, and the first refusal is the last question. So the questions
of a whole attempt are put together from those of its phases. -/

namespace IntentRollout

def Exchange.question? : Exchange → Option Phase
  | ⟨.confirm phase, _⟩ => some phase
  | _ => none

def asked (trace : List Exchange) : List Phase := trace.filterMap Exchange.question?

/-- The checkpoint before which a request must not be made. -/
def Request.checkpoint? : Request → Option Phase
  | .snapshot => some .snapshot
  | .publish site _ _ => some (.publish site)
  | .fetch target => some (.gate target)
  | _ => none

def Agreed (phase : Phase) (trace : List Exchange) : Prop :=
  ∃ time, ⟨.confirm phase, ⟨true, time⟩⟩ ∈ trace

/-- Every call behind a checkpoint comes after the consent that it needs. -/
def Consented (rollout : Rollout) (trace : List Exchange) : Prop :=
  ∀ earlier call later phase, trace = earlier ++ call :: later →
    call.request.checkpoint? = some phase → rollout.needsConsent phase = true → Agreed phase earlier

private theorem append_eq_append_cons {α : Type} {first rest earlier later : List α} {item : α}
    (split : first ++ rest = earlier ++ item :: later) :
    (∃ between, first = earlier ++ item :: between ∧ later = between ++ rest) ∨
      ∃ between, earlier = first ++ between ∧ rest = between ++ item :: later := by
  rcases List.append_eq_append_iff.mp split with ⟨between, rfl, same⟩ | ⟨between, rfl, same⟩
  · exact .inr ⟨between, rfl, same⟩
  · cases between with
    | nil => exact .inr ⟨[], by simp, by simpa using same.symm⟩
    | cons head between =>
      cases same
      exact .inl ⟨between, rfl, rfl⟩

variable {rollout : Rollout} {trace first rest : List Exchange} {phase : Phase}

@[simp] theorem asked_append (first rest : List Exchange) : asked (first ++ rest) = asked first ++ asked rest :=
  List.filterMap_append

private theorem asked_eq_nil (unasked : ∀ exchange ∈ trace, exchange.question? = none) : asked trace = [] := by
  simpa [asked, List.filterMap_eq_nil_iff] using unasked

theorem Phase.Owns.checkpoint (owned : phase.Owns trace) {exchange : Exchange} (member : exchange ∈ trace)
    {before : Phase} (guarded : exchange.request.checkpoint? = some before) : before = phase := by
  have allowed := owned exchange member
  cases same : exchange.request <;> simp_all [Request.checkpoint?, Phase.allows]

private theorem Agreed.append_left (agreed : Agreed phase first) (rest : List Exchange) :
    Agreed phase (first ++ rest) := by
  obtain ⟨time, member⟩ := agreed
  exact ⟨time, List.mem_append_left rest member⟩

private theorem Agreed.append_right (first : List Exchange) (agreed : Agreed phase rest) :
    Agreed phase (first ++ rest) := by
  obtain ⟨time, member⟩ := agreed
  exact ⟨time, List.mem_append_right first member⟩

namespace Consented

private theorem of_unguarded (free : ∀ exchange ∈ trace, exchange.request.checkpoint? = none) :
    Consented rollout trace := by
  intro earlier call later phase split guarded
  rw [free call (by simp [split])] at guarded
  cases guarded

/-- Consent that a first part has lets the calls of its phase be made in a second. -/
theorem behind (before : Consented rollout first)
    (agreed : rollout.needsConsent phase = true → Agreed phase first) (owned : phase.Owns rest) :
    Consented rollout (first ++ rest) := by
  intro earlier call later other split guarded needed
  obtain ⟨between, rfl, rfl⟩ | ⟨between, rfl, rfl⟩ := append_eq_append_cons split
  · exact before earlier call between other rfl guarded needed
  · obtain rfl := owned.checkpoint (by simp) guarded
    exact (agreed needed).append_left between

theorem append (before : Consented rollout first) (after : Consented rollout rest) :
    Consented rollout (first ++ rest) := by
  intro earlier call later phase split guarded needed
  obtain ⟨between, rfl, rfl⟩ | ⟨between, rfl, rfl⟩ := append_eq_append_cons split
  · exact before earlier call between phase rfl guarded needed
  · exact (after between call later phase rfl guarded needed).append_right first

end Consented

/-- Work that goes through phases in this order and asks about those of them that need consent: about all
if it comes to its end. -/
structure Consults {α : Type} (rollout : Rollout) (phases : List Phase) (trace : List Exchange)
    (result : Except Halt α) : Prop where
  ordered : asked trace <+: phases.filter rollout.needsConsent
  complete : (∃ value, result = .ok value) → asked trace = phases.filter rollout.needsConsent
  consented : Consented rollout trace

namespace Consults

variable {α β : Type} {phases : List Phase}

theorem onward {value : α} {result : Except Halt β} {others : List Phase}
    (before : Consults rollout phases first (.ok value)) (after : Consults rollout others rest result) :
    Consults rollout (phases ++ others) (first ++ rest) result := by
  have all := before.complete ⟨value, rfl⟩
  refine ⟨?_, fun passed => ?_, before.consented.append after.consented⟩
  · rw [asked_append, all, List.filter_append]
    exact (List.prefix_append_right_inj _).mpr after.ordered
  · rw [asked_append, all, List.filter_append, after.complete passed]

/-- Work that stops asks about no later phase. -/
theorem stopped {halt : Halt} (before : Consults rollout phases first (.error halt : Except Halt α))
    (others : List Phase) : Consults rollout (phases ++ others) first (.error halt : Except Halt β) := by
  refine ⟨before.ordered.trans ?_, nofun, before.consented⟩
  rw [List.filter_append]
  exact List.prefix_append _ _

end Consults

theorem Tried.unasked {α : Type} {exchange : Timed (Except DeliveryError α) → Exchange} {left : Nat}
    {result : Except DeliveryError α} (tried : Tried exchange left trace result)
    (silent : ∀ reply, (exchange reply).question? = none) : asked trace = [] := by
  apply asked_eq_nil
  intro member inside
  obtain ⟨reply, rfl⟩ | ⟨milliseconds, reply, rfl⟩ := tried.members member inside
  · exact silent reply
  · rfl

theorem Polled.unasked {target : String} {revision : Option String} {convergence : Convergence}
    (polled : Polled target revision trace convergence) : asked trace = [] := by
  induction polled with
  | synced | failed | expired | exhausted | interrupted => rfl
  | again _ _ ih => exact ih

theorem Awaited.unasked {watched : Bool} {target : String} {revision : Option String}
    {settings : VerifySettings} {convergence : Convergence}
    (awaited : Awaited watched target revision settings trace convergence) : asked trace = [] := by
  cases awaited with
  | elapsed | interrupted => rfl
  | polled _ polled => exact polled.unasked

theorem Attempt.Provided.unasked {source : IntentSource} {document : Json}
    (provided : Attempt.Provided source trace document) : asked trace = [] := by
  cases provided <;> rfl

private theorem Entered.consented {result : Except Halt Unit} (entered : Entered rollout phase trace result) :
    Consented rollout trace := by
  apply Consented.of_unguarded
  cases entered <;> simp [Request.checkpoint?]

private theorem Entered.asked_eq (entered : Entered rollout phase trace (.ok ())) :
    asked trace = [phase].filter rollout.needsConsent := by
  cases entered with
  | free unneeded =>
    rw [List.filter_cons_of_neg (by simp [unneeded])]
    rfl
  | agreed needed =>
    rw [List.filter_cons_of_pos needed]
    rfl

private theorem Entered.agreement (entered : Entered rollout phase trace (.ok ()))
    (needed : rollout.needsConsent phase = true) : Agreed phase trace := by
  cases entered with
  | free unneeded =>
    rw [needed] at unneeded
    cases unneeded
  | @agreed time later last => exact ⟨later, by simp⟩

theorem Entered.halted {α : Type} {halt : Halt} (entered : Entered rollout phase trace (.error halt)) :
    Consults rollout [phase] trace (.error halt : Except Halt α) where
  ordered := by
    cases entered with
    | interrupted => exact List.nil_prefix
    | refused needed | withdrawn needed =>
      rw [List.filter_cons_of_pos needed]
      exact List.prefix_rfl
  complete := nofun
  consented := entered.consented

/-- What a phase does once it is entered needs no more consent. -/
theorem Entered.consults {α : Type} {result : Except Halt α} (entered : Entered rollout phase first (.ok ()))
    (owned : phase.Owns (first ++ rest)) (unasked : asked rest = []) :
    Consults rollout [phase] (first ++ rest) result := by
  have all : asked (first ++ rest) = [phase].filter rollout.needsConsent := by
    rw [asked_append, entered.asked_eq, unasked, List.append_nil]
  have owned : phase.Owns rest := fun exchange member => owned exchange (List.mem_append_right first member)
  exact ⟨all ▸ List.prefix_rfl, fun _ => all, entered.consented.behind entered.agreement owned⟩

private theorem Entered.consults_alone {α : Type} {result : Except Halt α}
    (entered : Entered rollout phase trace (.ok ())) : Consults rollout [phase] trace result where
  ordered := entered.asked_eq ▸ List.prefix_rfl
  complete _ := entered.asked_eq
  consented := entered.consented

namespace Attempt

variable {started : Instant} {before after : Standing} {intent : Intent} {compilation : Compilation}
  {objectives : Gate} {target : String}

theorem Snapshotting.consults {result : Except Halt Unit}
    (snapshotting : Snapshotting rollout before trace result after) :
    Consults rollout [.snapshot] trace result := by
  have owned := snapshotting.owned
  cases snapshotting with
  | halted entered => exact entered.halted
  | refused entered tried | taken entered tried =>
    exact entered.consults owned (tried.unasked fun _ => rfl)

theorem Validating.consults {source : IntentSource} {requested : List String}
    {result : Except Halt (Intent × List String × Gate)}
    (validating : Validating rollout source requested before trace result after) :
    Consults rollout [.validate] trace result := by
  have owned := validating.owned
  cases validating with
  | halted entered => exact entered.halted
  | unreadable entered => exact entered.consults owned rfl
  | malformed entered provided | refused entered provided | accepted entered provided =>
    exact entered.consults owned provided.unasked

theorem Rendering.consults {targets : List String} {result : Except Halt Compilation}
    (rendering : Rendering rollout started intent targets before trace result after) :
    Consults rollout [.render] trace result := by
  cases rendering with
  | halted entered => exact entered.halted
  | refused entered | compiled entered => exact entered.consults_alone

theorem Publishing.consults {result : Except Halt (Option String)}
    (publishing : Publishing rollout started intent compilation target before trace result after) :
    Consults rollout [.publish target] trace result := by
  have owned := publishing.owned
  cases publishing with
  | halted entered => exact entered.halted
  | rehearsed entered => exact entered.consults_alone
  | refused entered _ tried | published entered _ tried =>
    exact entered.consults owned (tried.unasked fun _ => rfl)

theorem Verifying.consults {revision : Option String} {result : Except Halt Unit}
    (verifying : Verifying rollout target revision before trace result after) :
    Consults rollout [.verify target] trace result := by
  have owned := verifying.owned
  cases verifying with
  | halted entered => exact entered.halted
  | rehearsed entered => exact entered.consults_alone
  | converged entered _ awaited | interrupted entered _ awaited | diverged entered _ awaited =>
    exact entered.consults owned awaited.unasked

theorem Gating.consults {result : Except Halt Unit}
    (gating : Gating rollout objectives target before trace result after) :
    Consults rollout [.gate target] trace result := by
  have owned := gating.owned
  cases gating with
  | halted entered => exact entered.halted
  | rehearsed entered => exact entered.consults_alone
  | interrupted entered | passed entered | violated entered | unclear entered =>
    exact entered.consults owned rfl

def phasesOf (target : String) : List Phase := [.publish target, .verify target, .gate target]

theorem Serving.consults {result : Except Halt Unit}
    (serving : Serving rollout started intent compilation objectives target before trace result after) :
    Consults rollout (phasesOf target) trace result := by
  cases serving with
  | unpublished publishing => exact publishing.consults.stopped [.verify target, .gate target]
  | unverified publishing verifying =>
    exact publishing.consults.onward (verifying.consults.stopped [.gate target])
  | gated publishing verifying gating =>
    exact publishing.consults.onward (verifying.consults.onward gating.consults)

theorem ServingAll.consults {targets : List String} {result : Except Halt Unit}
    (serving : ServingAll rollout started intent compilation objectives targets before trace result after) :
    Consults rollout (targets.flatMap phasesOf) trace result := by
  induction serving with
  | done => exact ⟨List.nil_prefix, fun _ => rfl, Consented.of_unguarded (by simp)⟩
  | stopped serving => exact serving.consults.stopped _
  | passed serving _ ih => exact serving.consults.onward ih

inductive Resolved (rollout : Rollout) (source : IntentSource) (requested : List String)
    (trace : List Exchange) : List String → Prop where
  | intro {document intent targets objectives}
      (provided : source = .document document ∨
        ∃ path time, source = .file path ∧ ⟨.document path, ⟨.ok document, time⟩⟩ ∈ trace)
      (read : Intent.ofJson document = .ok intent)
      (accepted : accept rollout intent requested = .ok (targets, objectives)) :
      Resolved rollout source requested trace targets

theorem Validating.resolved {source : IntentSource} {requested targets : List String}
    (validating : Validating rollout source requested before trace (.ok (intent, targets, objectives)) after) :
    Resolved rollout source requested trace targets := by
  cases validating with
  | @accepted first _ _ _ _ _ entered provided read accepted =>
    refine .intro ?_ read accepted
    cases provided with
    | @read path document time =>
      exact .inr ⟨path, time, rfl, List.mem_append_right first (List.mem_singleton_self _)⟩
    | given => exact .inl rfl

theorem Resolved.append {source : IntentSource} {requested targets : List String}
    (resolved : Resolved rollout source requested trace targets) (first rest : List Exchange) :
    Resolved rollout source requested (first ++ (trace ++ rest)) targets := by
  cases resolved with
  | intro provided read accepted =>
    refine .intro ?_ read accepted
    refine provided.imp_right fun ⟨path, time, named, member⟩ => ⟨path, time, named, ?_⟩
    exact List.mem_append_right first (List.mem_append_left rest member)

/-- An attempt asks about the phases before its targets are known, and then about those of its targets. -/
theorem Driving.consults {source : IntentSource} {requested : List String} {result : Except Halt Unit}
    (driving : Driving rollout started source requested before trace result after) :
    Consented rollout trace ∧
      (asked trace <+: [.snapshot, .validate].filter rollout.needsConsent ∨
        ∃ targets, Resolved rollout source requested trace targets ∧
          asked trace <+:
            ([Phase.snapshot, .validate, .render] ++ targets.flatMap phasesOf).filter
              rollout.needsConsent) := by
  cases driving with
  | unremembered snapshotting =>
    have consults := snapshotting.consults.stopped (β := Unit) [.validate]
    exact ⟨consults.consented, .inl consults.ordered⟩
  | invalid snapshotting validating =>
    have consults := snapshotting.consults.onward validating.consults
    exact ⟨consults.consented, .inl consults.ordered⟩
  | @unrendered _ _ _ _ targets _ _ rest _ _ snapshotting validating rendering =>
    have consults := snapshotting.consults.onward (validating.consults.onward
      (rendering.consults.stopped (β := Unit) (targets.flatMap phasesOf)))
    exact ⟨consults.consented, .inr ⟨targets, validating.resolved.append _ _, consults.ordered⟩⟩
  | @served _ _ _ _ targets _ _ _ _ _ _ _ _ snapshotting validating rendering serving =>
    have consults := snapshotting.consults.onward (validating.consults.onward
      (rendering.consults.onward serving.consults))
    exact ⟨consults.consented, .inr ⟨targets, validating.resolved.append _ _, consults.ordered⟩⟩

end Attempt

def RefusedAt (phase : Phase) (trace : List Exchange) : Prop :=
  ∃ front time, trace = front ++ [⟨.confirm phase, ⟨false, time⟩⟩]

theorem RefusedAt.append (refused : RefusedAt phase rest) (first : List Exchange) :
    RefusedAt phase (first ++ rest) := by
  obtain ⟨front, time, rfl⟩ := refused
  exact ⟨first ++ front, time, (List.append_assoc _ _ _).symm⟩

private theorem Entered.refusedAt (entered : Entered rollout phase trace (.error .declined)) :
    RefusedAt phase trace := by
  cases entered with
  | refused => exact ⟨[_], _, rfl⟩

namespace Attempt

variable {started : Instant} {before after : Standing} {intent : Intent} {compilation : Compilation}
  {objectives : Gate} {target : String}

private theorem Serving.refusedAt
    (serving : Serving rollout started intent compilation objectives target before trace
      (.error .declined) after) : RefusedAt after.phase trace := by
  cases serving with
  | unpublished publishing =>
    cases publishing with
    | halted entered => exact entered.refusedAt
  | unverified _ verifying =>
    apply RefusedAt.append
    cases verifying with
    | halted entered => exact entered.refusedAt
  | gated _ _ gating =>
    apply RefusedAt.append
    apply RefusedAt.append
    cases gating with
    | halted entered => exact entered.refusedAt

private theorem ServingAll.refusedAt {targets : List String} {result : Except Halt Unit}
    (serving : ServingAll rollout started intent compilation objectives targets before trace result after)
    (declined : result = .error .declined) : RefusedAt after.phase trace := by
  induction serving with
  | done => cases declined
  | stopped serving =>
    cases declined
    exact serving.refusedAt
  | passed _ _ ih => exact (ih declined).append _

/-- An attempt that is declined has just been refused the phase that it stands in. -/
theorem Driving.refusedAt {source : IntentSource} {requested : List String}
    (driving : Driving rollout started source requested before trace (.error .declined) after) :
    RefusedAt after.phase trace := by
  cases driving with
  | unremembered snapshotting =>
    cases snapshotting with
    | halted entered => exact entered.refusedAt
  | invalid _ validating =>
    apply RefusedAt.append
    cases validating with
    | halted entered => exact entered.refusedAt
  | unrendered _ _ rendering =>
    apply RefusedAt.append
    apply RefusedAt.append
    cases rendering with
    | halted entered => exact entered.refusedAt
  | served _ _ _ serving =>
    exact (((serving.refusedAt rfl).append _).append _).append _

end Attempt

theorem Returning.unasked {attempts : Nat} (returning : Returning attempts trace) : asked trace = [] := by
  obtain rfl | ⟨head, result, tried⟩ := returning
  · rfl
  · exact tried.unasked fun _ => rfl

end IntentRollout
