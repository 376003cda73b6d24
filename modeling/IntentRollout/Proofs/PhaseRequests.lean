import IntentRollout.Proofs.AttemptRuns

/-! Which requests each phase makes. A phase asks only for what belongs to it, so that a request in a
run tells the phase that made it. -/

namespace IntentRollout

namespace Request

def isSnapshot : Request → Bool
  | .snapshot => true
  | _ => false

def isPublish : Request → Bool
  | .publish _ _ _ => true
  | _ => false

def isReset : Request → Bool
  | .reset _ => true
  | _ => false

def isCall : Request → Bool
  | .snapshot => true
  | .publish _ _ _ => true
  | .reset _ => true
  | .status _ _ => true
  | .fetch _ => true
  | _ => false

/-- Whether a request looks for shutdown, by asking for it or by being one that shutdown ends. -/
def observes : Request → Bool
  | .shutdown => true
  | .wait _ => true
  | .fetch _ => true
  | _ => false

def acts (request : Request) : Bool :=
  request.isCall ||
    match request with
    | .wait _ => true
    | _ => false

end Request

/-- Whether a request belongs to a phase. A pause between attempts and a look for shutdown belong to any. -/
def Phase.allows (phase : Phase) : Request → Bool
  | .shutdown => true
  | .pause _ => true
  | .confirm asked => asked = phase
  | .snapshot => phase = .snapshot
  | .document _ => phase = .validate
  | .publish site _ _ => phase = .publish site
  | .status target _ => phase = .verify target
  | .wait _ => phase.name = "VERIFY"
  | .fetch target => phase = .gate target
  | .reset _ => phase = .rollback

def Phase.Owns (phase : Phase) (trace : List Exchange) : Prop :=
  ∀ exchange ∈ trace, phase.allows exchange.request = true

namespace Phase.Owns

variable {phase : Phase} {trace first rest : List Exchange}

theorem no_snapshot (owned : phase.Owns trace) (other : phase ≠ .snapshot) :
    ∀ exchange ∈ trace, exchange.request.isSnapshot = false := by
  intro exchange member
  have allowed := owned exchange member
  cases same : exchange.request <;> simp_all [Request.isSnapshot, Phase.allows]

theorem no_publish (owned : phase.Owns trace) (other : ∀ target, phase ≠ .publish target) :
    ∀ exchange ∈ trace, exchange.request.isPublish = false := by
  intro exchange member
  have allowed := owned exchange member
  cases same : exchange.request <;> simp_all [Request.isPublish, Phase.allows]

theorem no_reset (owned : phase.Owns trace) (other : phase ≠ .rollback) :
    ∀ exchange ∈ trace, exchange.request.isReset = false := by
  intro exchange member
  have allowed := owned exchange member
  cases same : exchange.request <;> simp_all [Request.isReset, Phase.allows]

theorem append (earlier : phase.Owns first) (later : phase.Owns rest) : phase.Owns (first ++ rest) := by
  intro exchange member
  rcases List.mem_append.mp member with member | member
  · exact earlier exchange member
  · exact later exchange member

end Phase.Owns

theorem Tried.owned {α : Type} {exchange : Timed (Except DeliveryError α) → Exchange} {left : Nat}
    {trace : List Exchange} {result : Except DeliveryError α} (tried : Tried exchange left trace result)
    {phase : Phase} (allowed : ∀ reply, phase.allows (exchange reply).request = true) :
    phase.Owns trace := by
  intro member inside
  obtain ⟨reply, rfl⟩ | ⟨milliseconds, reply, rfl⟩ := tried.members member inside
  · exact allowed reply
  · rfl

theorem Entered.owned {rollout : Rollout} {phase : Phase} {trace : List Exchange}
    {result : Except Halt Unit} (entered : Entered rollout phase trace result) : phase.Owns trace := by
  cases entered <;> simp [Phase.Owns, Phase.allows]

theorem Entered.no_acts {rollout : Rollout} {phase : Phase} {trace : List Exchange}
    {result : Except Halt Unit} (entered : Entered rollout phase trace result) :
    ∀ exchange ∈ trace, exchange.request.acts = false := by
  cases entered <;> simp [Request.acts, Request.isCall]

theorem Polled.owned {target : String} {revision : Option String} {trace : List Exchange}
    {convergence : Convergence} (polled : Polled target revision trace convergence) :
    (Phase.verify target).Owns trace := by
  induction polled with
  | again _ _ ih =>
    intro member inside
    rcases List.mem_cons.mp inside with rfl | inside
    · simp [Phase.allows]
    · rcases List.mem_cons.mp inside with rfl | inside
      · simp [Phase.allows, Phase.name]
      · exact ih member inside
  | synced | failed | expired | exhausted | interrupted => simp [Phase.Owns, Phase.allows, Phase.name]

theorem Awaited.owned {watched : Bool} {target : String} {revision : Option String}
    {settings : VerifySettings} {trace : List Exchange} {convergence : Convergence}
    (awaited : Awaited watched target revision settings trace convergence) :
    (Phase.verify target).Owns trace := by
  cases awaited with
  | elapsed | interrupted => simp [Phase.Owns, Phase.allows, Phase.name]
  | polled _ polled => exact polled.owned

namespace Attempt

variable {rollout : Rollout} {started : Instant} {before after : Standing} {trace : List Exchange}

theorem Snapshotting.owned {result : Except Halt Unit}
    (snapshotting : Snapshotting rollout before trace result after) : Phase.snapshot.Owns trace := by
  cases snapshotting with
  | halted entered => exact entered.owned
  | refused entered tried | taken entered tried =>
    exact entered.owned.append (tried.owned fun _ => rfl)

theorem Provided.owned {source : IntentSource} {document : Json}
    (provided : Provided source trace document) : Phase.validate.Owns trace := by
  cases provided <;> simp [Phase.Owns, Phase.allows]

theorem Validating.owned {source : IntentSource} {requested : List String}
    {result : Except Halt (Intent × List String × Gate)}
    (validating : Validating rollout source requested before trace result after) :
    Phase.validate.Owns trace := by
  cases validating with
  | halted entered => exact entered.owned
  | unreadable entered _ => exact entered.owned.append (by simp [Phase.Owns, Phase.allows])
  | malformed entered provided | refused entered provided | accepted entered provided =>
    exact entered.owned.append provided.owned

theorem Rendering.owned {intent : Intent} {targets : List String} {result : Except Halt Compilation}
    (rendering : Rendering rollout started intent targets before trace result after) :
    Phase.render.Owns trace := by
  cases rendering with
  | halted entered | refused entered | compiled entered => exact entered.owned

theorem Publishing.owned {intent : Intent} {compilation : Compilation} {target : String}
    {result : Except Halt (Option String)}
    (publishing : Publishing rollout started intent compilation target before trace result after) :
    (Phase.publish target).Owns trace := by
  cases publishing with
  | halted entered | rehearsed entered => exact entered.owned
  | refused entered _ tried | published entered _ tried =>
    exact entered.owned.append (tried.owned fun _ => by simp [Phase.allows])

theorem Verifying.owned {target : String} {revision : Option String} {result : Except Halt Unit}
    (verifying : Verifying rollout target revision before trace result after) :
    (Phase.verify target).Owns trace := by
  cases verifying with
  | halted entered | rehearsed entered => exact entered.owned
  | converged entered _ awaited | interrupted entered _ awaited | diverged entered _ awaited =>
    exact entered.owned.append awaited.owned

theorem Gating.owned {objectives : Gate} {target : String} {result : Except Halt Unit}
    (gating : Gating rollout objectives target before trace result after) :
    (Phase.gate target).Owns trace := by
  cases gating with
  | halted entered | rehearsed entered => exact entered.owned
  | interrupted entered | passed entered | violated entered | unclear entered =>
    exact entered.owned.append (by simp [Phase.Owns, Phase.allows])

end Attempt

end IntentRollout
