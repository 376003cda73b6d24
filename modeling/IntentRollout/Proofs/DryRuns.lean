import IntentRollout.Proofs.ReportTruth
import IntentRollout.Proofs.StopSignals

/-! Dry runs touch nothing. Whatever the mode and the environment, an attempt that is not for real looks for shutdown,
reads its document and asks for the head of the tree; it waits only between tries of that. -/

namespace IntentRollout

def Passive (trace : List Exchange) : Prop :=
  ∀ exchange ∈ trace, exchange.request = .shutdown ∨ ∃ path, exchange.request = .document path

/-- All that is asked for is at most a snapshot, tried so many times at most. -/
inductive Untouching (attempts : Nat) : List Exchange → Prop where
  | stopped {trace} (passive : Passive trace) : Untouching attempts trace
  | remembered {front tries result rest} (before : Passive front) (tried : Tried .snapshot attempts tries result)
      (after : Passive rest) : Untouching attempts (front ++ (tries ++ rest))

namespace Passive

variable {trace first rest : List Exchange}

theorem nil : Passive [] := fun _ member => absurd member List.not_mem_nil

theorem append (earlier : Passive first) (later : Passive rest) : Passive (first ++ rest) := by
  intro exchange member
  rcases List.mem_append.mp member with member | member
  · exact earlier exchange member
  · exact later exchange member

end Passive

theorem Untouching.append {attempts : Nat} {first rest : List Exchange} (untouching : Untouching attempts first)
    (later : Passive rest) : Untouching attempts (first ++ rest) := by
  cases untouching with
  | stopped passive => exact .stopped (passive.append later)
  | remembered before tried after =>
    rw [List.append_assoc, List.append_assoc]
    exact .remembered before tried (after.append later)

theorem Untouching.unasked {attempts : Nat} {trace : List Exchange} (untouching : Untouching attempts trace) :
    ∀ exchange ∈ trace, ∀ phase, exchange.request ≠ .confirm phase := by
  have passive {trace : List Exchange} (passive : Passive trace) :
      ∀ exchange ∈ trace, ∀ phase, exchange.request ≠ .confirm phase := by
    intro exchange member phase
    rcases passive exchange member with request | ⟨path, request⟩ <;> rw [request] <;> exact nofun
  cases untouching with
  | stopped idle => exact passive idle
  | remembered before tried after =>
    intro exchange member
    rcases List.mem_append.mp member with member | member
    · exact passive before exchange member
    · rcases List.mem_append.mp member with member | member
      · obtain ⟨reply, rfl⟩ | ⟨milliseconds, reply, rfl⟩ := tried.members exchange member <;> exact nofun
      · exact passive after exchange member

namespace Attempt

variable {rollout : Rollout} {started : Instant} {before after : Standing} {trace : List Exchange}
  {intent : Intent} {compilation : Compilation} {objectives : Gate}

private theorem passive_of_entered {phase : Phase} {result : Except Halt Unit}
    (entered : Entered rollout phase trace result) (dry : rollout.options.dryRun = true) : Passive trace := by
  have free : rollout.needsConsent phase = false := by simp [Rollout.needsConsent, dry]
  cases entered with
  | interrupted | free => exact fun exchange member => .inl (by rw [List.mem_singleton.mp member])
  | refused asked | withdrawn asked | agreed asked => simp [free] at asked

theorem Snapshotting.untouching {result : Except Halt Unit}
    (snapshotting : Snapshotting rollout before trace result after) (dry : rollout.options.dryRun = true) :
    Untouching rollout.options.retry.attempts trace := by
  have remembered {first tries} {taken : Except DeliveryError String}
      (entered : Entered rollout .snapshot first (.ok ()))
      (tried : Tried .snapshot rollout.options.retry.attempts tries taken) :
      Untouching rollout.options.retry.attempts (first ++ tries) := by
    rw [← List.append_nil tries]
    exact .remembered (passive_of_entered entered dry) tried .nil
  cases snapshotting with
  | halted entered => exact .stopped (passive_of_entered entered dry)
  | refused entered tried | taken entered tried => exact remembered entered tried

private theorem passive_of_provided {source : IntentSource} {document : Json}
    (provided : Provided source trace document) :
    Passive trace := by
  cases provided with
  | @read path => exact fun exchange member => .inr ⟨path, by rw [List.mem_singleton.mp member]⟩
  | given => exact .nil

private theorem Validating.passive {source : IntentSource} {requested : List String}
    {result : Except Halt (Intent × List String × Gate)}
    (validating : Validating rollout source requested before trace result after)
    (dry : rollout.options.dryRun = true) : Passive trace := by
  cases validating with
  | halted entered => exact passive_of_entered entered dry
  | @unreadable _ path _ _ entered =>
    exact (passive_of_entered entered dry).append
      fun exchange member => .inr ⟨path, by rw [List.mem_singleton.mp member]⟩
  | malformed entered provided | refused entered provided | accepted entered provided =>
    exact (passive_of_entered entered dry).append (passive_of_provided provided)

private theorem Rendering.passive {targets : List String} {result : Except Halt Compilation}
    (rendering : Rendering rollout started intent targets before trace result after)
    (dry : rollout.options.dryRun = true) : Passive trace := by
  cases rendering with
  | halted entered | refused entered | compiled entered => exact passive_of_entered entered dry

private theorem Publishing.passive {target : String} {result : Except Halt (Option String)}
    (publishing : Publishing rollout started intent compilation target before trace result after)
    (dry : rollout.options.dryRun = true) : Passive trace := by
  cases publishing with
  | halted entered | rehearsed entered => exact passive_of_entered entered dry
  | refused _ real | published _ real => simp [dry] at real

private theorem Verifying.passive {target : String} {revision : Option String} {result : Except Halt Unit}
    (verifying : Verifying rollout target revision before trace result after)
    (dry : rollout.options.dryRun = true) : Passive trace := by
  cases verifying with
  | halted entered | rehearsed entered => exact passive_of_entered entered dry
  | converged _ real | interrupted _ real | diverged _ real => simp [dry] at real

private theorem Gating.passive {target : String} {result : Except Halt Unit}
    (gating : Gating rollout objectives target before trace result after)
    (dry : rollout.options.dryRun = true) : Passive trace := by
  cases gating with
  | halted entered | rehearsed entered => exact passive_of_entered entered dry
  | interrupted _ real | passed _ real | violated _ real | unclear _ real => simp [dry] at real

private theorem Serving.passive {target : String} {result : Except Halt Unit}
    (serving : Serving rollout started intent compilation objectives target before trace result after)
    (dry : rollout.options.dryRun = true) : Passive trace := by
  cases serving with
  | unpublished publishing => exact publishing.passive dry
  | unverified publishing verifying => exact (publishing.passive dry).append (verifying.passive dry)
  | gated publishing verifying gating =>
    exact (publishing.passive dry).append ((verifying.passive dry).append (gating.passive dry))

private theorem ServingAll.passive {targets : List String} {result : Except Halt Unit}
    (serving : ServingAll rollout started intent compilation objectives targets before trace result after)
    (dry : rollout.options.dryRun = true) : Passive trace := by
  induction serving with
  | done => exact .nil
  | stopped serving => exact serving.passive dry
  | passed serving _ ih => exact (serving.passive dry).append ih

theorem Driving.untouching {source : IntentSource} {requested : List String} {result : Except Halt Unit}
    (driving : Driving rollout started source requested before trace result after)
    (dry : rollout.options.dryRun = true) : Untouching rollout.options.retry.attempts trace := by
  cases driving with
  | unremembered snapshotting => exact snapshotting.untouching dry
  | invalid snapshotting validating => exact (snapshotting.untouching dry).append (validating.passive dry)
  | unrendered snapshotting validating rendering =>
    exact (snapshotting.untouching dry).append ((validating.passive dry).append (rendering.passive dry))
  | served snapshotting validating rendering serving =>
    exact (snapshotting.untouching dry).append
      ((validating.passive dry).append ((rendering.passive dry).append (serving.passive dry)))

/-- An attempt that published nothing is concluded without any exchange. -/
theorem Concluding.of_clean {result : Except Halt Unit} {standing : Standing} {conclusion : Conclusion}
    (concluding : Concluding rollout started result standing trace conclusion) (clean : standing.mutated = false) :
    trace = [] ∧ ((result = .error .declined ∧ conclusion = ⟨.declined, none, none, none⟩) ∨
      (∃ lines, result = .ok () ∧ conclusion = conclusionOf rollout started .succeeded standing lines) ∨
      ∃ halt lines, result = .error halt ∧
        conclusion = conclusionOf rollout started (outcomeOf result) (standing.halted halt) lines) := by
  obtain ⟨lines, rfl, rfl, rfl⟩ | ⟨rfl, _, rfl, rfl⟩ | ⟨halt, after, lines, rfl, tidying, rfl⟩ := concluding.parted
  · exact ⟨rfl, .inr (.inl ⟨lines, rfl, rfl⟩)⟩
  · exact ⟨rfl, .inl ⟨rfl, rfl⟩⟩
  · obtain ⟨phase, target, error, marked⟩ := standing.halted_eq halt
    cases tidying with
    | untouched => exact ⟨rfl, .inr (.inr ⟨halt, lines, rfl, rfl⟩)⟩
    | mutated mutated =>
      rw [marked] at mutated
      simp [Standing.marked, clean] at mutated

end Attempt

theorem Rollout.untouching_of_dryRun {rollout : Rollout} {started : Instant} {source : IntentSource}
    {requested : List String} {trace : List Exchange} {conclusion : Conclusion}
    (dry : rollout.options.dryRun = true) (ran : (rollout.plan started source requested).Run trace conclusion) :
    Untouching rollout.options.retry.attempts trace := by
  obtain ⟨driven, result, standing, ended, rfl, driving, concluding⟩ := Rollout.run_plan ran
  have clean : standing.mutated = false := by
    cases mutated : standing.mutated with
    | false => rfl
    | true =>
      obtain ⟨_, _, real⟩ := driving.driven.known mutated
      rw [dry] at real
      cases real
  rw [(concluding.of_clean clean).1, List.append_nil]
  exact driving.untouching dry

end IntentRollout
