import IntentRollout.Proofs.PhaseRequests

/-! What becomes of the delivery tree. Once a publication was attempted, every end but success puts the
tree back to the head that was remembered before the first publication; nothing else ever does. The
invariant is how an attempt stands: what it remembers is what the one successful snapshot returned,
and it counts as mutated from the first publication on. -/

namespace IntentRollout

def Exchange.taken? : Exchange → Option String
  | ⟨.snapshot, ⟨.ok head, _⟩⟩ => some head
  | _ => none

def publishes (trace : List Exchange) : Bool := trace.any fun exchange => exchange.request.isPublish

@[simp] theorem publishes_append (first rest : List Exchange) :
    publishes (first ++ rest) = (publishes first || publishes rest) :=
  List.any_append

theorem publishes_eq_false {trace : List Exchange} :
    publishes trace = false ↔ ∀ exchange ∈ trace, exchange.request.isPublish = false := by
  simp [publishes]

private theorem head_append {word : String} {first : Char} (head : word.toList.head? = some first)
    (rest : String) : (word ++ rest).toList.head? = some first := by
  rw [String.toList_append, List.head?_append, head, Option.some_or]

/-- Messages of the delivery tree are told from the complaint about a missing head by their first letter. -/
theorem DeliveryError.message_ne_noSnapshot (error : DeliveryError) :
    error.message ≠ RolloutError.noSnapshot.message := by
  have begins : ∃ first, error.message.toList.head? = some first ∧ first ≠ 'r' := by
    cases error with
    | missingSite path => exact ⟨_, head_append rfl _, by decide⟩
    | command line stderr | spawn line reason | file path reason =>
      exact ⟨_, head_append (head_append (head_append rfl _) _) _, by decide⟩
    | task reason => exact ⟨_, head_append rfl _, by decide⟩
  intro same
  obtain ⟨first, head, other⟩ := begins
  rw [same] at head
  exact other (Option.some_inj.mp head).symm

private theorem Request.isPublish_of_not_acts {request : Request} (idle : request.acts = false) :
    request.isPublish = false := by
  cases request <;> first | rfl | cases idle

theorem Entered.publishes {rollout : Rollout} {phase : Phase} {trace : List Exchange}
    {result : Except Halt Unit} (entered : Entered rollout phase trace result) :
    publishes trace = false :=
  publishes_eq_false.mpr fun exchange member =>
    Request.isPublish_of_not_acts (entered.no_acts exchange member)

theorem Tried.publishes {site : String} {files : List RenderedFile} {message : String} {left : Nat}
    {trace : List Exchange} {result : Except DeliveryError (Option String)}
    (tried : Tried (.publish site files message) left trace result) : publishes trace = true := by
  cases tried <;> rfl

namespace Attempt

/-- What exchanges with targets do to an attempt: it remembers what it did, and it counts as mutated if it
did or if anything was published. Nothing is published unless it is for real, and nothing is put back. -/
structure Tracks (rollout : Rollout) (before : Standing) (trace : List Exchange) (after : Standing) :
    Prop where
  remembers : after.snapshot = before.snapshot
  unrecorded : after.details.rollback = before.details.rollback
  counts : after.mutated = (before.mutated || publishes trace)
  real : publishes trace = true → rollout.options.dryRun = false
  untaken : ∀ exchange ∈ trace, exchange.request.isSnapshot = false
  kept : ∀ exchange ∈ trace, exchange.request.isReset = false

variable {rollout : Rollout} {started : Instant} {before middle after : Standing}
  {trace first rest : List Exchange}

theorem Tracks.refl : Tracks rollout before [] before :=
  ⟨rfl, rfl, by simp [publishes], by simp [publishes], by simp, by simp⟩

theorem Tracks.trans (earlier : Tracks rollout before first middle)
    (later : Tracks rollout middle rest after) : Tracks rollout before (first ++ rest) after := by
  refine ⟨later.remembers.trans earlier.remembers, later.unrecorded.trans earlier.unrecorded,
    ?_, ?_, ?_, ?_⟩
  · rw [later.counts, earlier.counts, publishes_append, Bool.or_assoc]
  · intro published
    rw [publishes_append, Bool.or_eq_true] at published
    exact published.elim earlier.real later.real
  · intro exchange member
    exact (List.mem_append.mp member).elim (earlier.untaken exchange) (later.untaken exchange)
  · intro exchange member
    exact (List.mem_append.mp member).elim (earlier.kept exchange) (later.kept exchange)

private theorem Tracks.of_quiet {phase : Phase} (owned : phase.Owns trace) (taken : phase ≠ .snapshot)
    (back : phase ≠ .rollback) (quiet : publishes trace = false)
    (remembers : after.snapshot = before.snapshot) (counts : after.mutated = before.mutated)
    (unrecorded : after.details.rollback = before.details.rollback) :
    Tracks rollout before trace after where
  remembers := remembers
  unrecorded := unrecorded
  counts := by rw [counts, quiet, Bool.or_false]
  real := by simp [quiet]
  untaken := owned.no_snapshot taken
  kept := owned.no_reset back

theorem Publishing.tracks {intent : Intent} {compilation : Compilation} {target : String}
    {result : Except Halt (Option String)}
    (publishing : Publishing rollout started intent compilation target before trace result after) :
    Tracks rollout before trace after := by
  have owned := publishing.owned
  cases publishing with
  | halted entered | rehearsed entered =>
    exact .of_quiet owned (by simp) (by simp) entered.publishes rfl rfl rfl
  | refused entered real tried | published entered real tried =>
    exact {
      remembers := rfl
      unrecorded := rfl
      counts := by simp [tried.publishes]
      real := fun _ => real
      untaken := owned.no_snapshot (by simp)
      kept := owned.no_reset (by simp) }

theorem Verifying.tracks {target : String} {revision : Option String} {result : Except Halt Unit}
    (verifying : Verifying rollout target revision before trace result after) :
    Tracks rollout before trace after := by
  have quiet := publishes_eq_false.mpr (verifying.owned.no_publish (by simp))
  have owned := verifying.owned
  cases verifying <;> exact .of_quiet owned (by simp) (by simp) quiet rfl rfl rfl

theorem Gating.tracks {objectives : Gate} {target : String} {result : Except Halt Unit}
    (gating : Gating rollout objectives target before trace result after) :
    Tracks rollout before trace after := by
  have quiet := publishes_eq_false.mpr (gating.owned.no_publish (by simp))
  have owned := gating.owned
  cases gating <;> exact .of_quiet owned (by simp) (by simp) quiet rfl rfl rfl

theorem Serving.tracks {intent : Intent} {compilation : Compilation} {objectives : Gate}
    {target : String} {result : Except Halt Unit}
    (serving : Serving rollout started intent compilation objectives target before trace result after) :
    Tracks rollout before trace after := by
  cases serving with
  | unpublished publishing => exact publishing.tracks
  | unverified publishing verifying => exact publishing.tracks.trans verifying.tracks
  | gated publishing verifying gating =>
    exact publishing.tracks.trans (verifying.tracks.trans gating.tracks)

theorem ServingAll.tracks {intent : Intent} {compilation : Compilation} {objectives : Gate}
    {targets : List String} {result : Except Halt Unit}
    (serving : ServingAll rollout started intent compilation objectives targets before trace result after) :
    Tracks rollout before trace after := by
  induction serving with
  | done => exact .refl
  | stopped serving => exact serving.tracks
  | passed serving _ ih => exact serving.tracks.trans ih

theorem Validating.tracks {source : IntentSource} {requested : List String}
    {result : Except Halt (Intent × List String × Gate)}
    (validating : Validating rollout source requested before trace result after) :
    Tracks rollout before trace after := by
  have quiet := publishes_eq_false.mpr (validating.owned.no_publish (by simp))
  have owned := validating.owned
  cases validating <;> exact .of_quiet owned (by simp) (by simp) quiet rfl rfl rfl

theorem Rendering.tracks {intent : Intent} {targets : List String} {result : Except Halt Compilation}
    (rendering : Rendering rollout started intent targets before trace result after) :
    Tracks rollout before trace after := by
  have quiet := publishes_eq_false.mpr (rendering.owned.no_publish (by simp))
  have owned := rendering.owned
  cases rendering <;> exact .of_quiet owned (by simp) (by simp) quiet rfl rfl rfl

structure Idle (trace : List Exchange) : Prop where
  untaken : ∀ exchange ∈ trace, exchange.taken? = none
  unpublished : publishes trace = false
  kept : ∀ exchange ∈ trace, exchange.request.isReset = false

theorem Idle.append (earlier : Idle first) (later : Idle rest) : Idle (first ++ rest) where
  untaken exchange member :=
    (List.mem_append.mp member).elim (earlier.untaken exchange) (later.untaken exchange)
  unpublished := by rw [publishes_append, earlier.unpublished, later.unpublished]; rfl
  kept exchange member := (List.mem_append.mp member).elim (earlier.kept exchange) (later.kept exchange)

private theorem idle_of_fruitless (fruitless : ∀ exchange ∈ trace, Fruitless .snapshot exchange) : Idle trace where
  untaken exchange member := by cases fruitless exchange member <;> rfl
  unpublished := publishes_eq_false.mpr fun exchange member => by
    cases fruitless exchange member <;> rfl
  kept exchange member := by cases fruitless exchange member <;> rfl

private theorem idle_of_entered {phase : Phase} {result : Except Halt Unit}
    (entered : Entered rollout phase trace result) : Idle trace := by
  cases entered <;>
    exact ⟨by simp [Exchange.taken?], rfl, by simp [Request.isReset]⟩

/-- A head is remembered when the one snapshot that succeeds returns it. -/
theorem Snapshotting.course {result : Except Halt Unit}
    (snapshotting : Snapshotting rollout before trace result after) :
    (Idle trace ∧ (∃ halt, result = .error halt) ∧ after = { before with phase := .snapshot }) ∨
      ∃ opening head time, trace = opening ++ [.snapshot ⟨.ok head, time⟩] ∧ Idle opening ∧
        after = { before with phase := .snapshot, snapshot := some head } := by
  cases snapshotting with
  | halted entered => exact .inl ⟨idle_of_entered entered, ⟨_, rfl⟩, rfl⟩
  | refused entered tried =>
    exact .inl ⟨(idle_of_entered entered).append (idle_of_fruitless tried.refused), ⟨_, rfl⟩, rfl⟩
  | taken entered tried =>
    obtain ⟨opening, time, rfl, fruitless⟩ := tried.succeeded
    refine .inr ⟨_ ++ opening, _, time, (List.append_assoc _ _ _).symm, ?_, rfl⟩
    exact (idle_of_entered entered).append (idle_of_fruitless fruitless)

/-- Nothing happens to the tree before its head is remembered, and after that it is only published to. -/
theorem Driving.course {source : IntentSource} {requested : List String} {result : Except Halt Unit}
    (driving : Driving rollout started source requested before trace result after) :
    (Idle trace ∧ (∃ halt, result = .error halt) ∧ after = { before with phase := .snapshot }) ∨
      ∃ opening head time work, trace = opening ++ .snapshot ⟨.ok head, time⟩ :: work ∧ Idle opening ∧
        Tracks rollout { before with phase := .snapshot, snapshot := some head } work after := by
  have remembered {first rest : List Exchange} {middle : Standing}
      (snapshotting : Snapshotting rollout before first (.ok ()) middle)
      (tracks : Tracks rollout middle rest after) :
      ∃ opening head time work, first ++ rest = opening ++ .snapshot ⟨.ok head, time⟩ :: work ∧
        Idle opening ∧
        Tracks rollout { before with phase := .snapshot, snapshot := some head } work after := by
    obtain ⟨_, ⟨_, impossible⟩, _⟩ | ⟨opening, head, time, rfl, idle, rfl⟩ := snapshotting.course
    · cases impossible
    · exact ⟨opening, head, time, rest, by simp, idle, tracks⟩
  cases driving with
  | unremembered snapshotting =>
    obtain idle | ⟨opening, head, time, rfl, idle, rfl⟩ := snapshotting.course
    · exact .inl idle
    · exact .inr ⟨opening, head, time, [], rfl, idle, .refl⟩
  | invalid snapshotting validating => exact .inr (remembered snapshotting validating.tracks)
  | unrendered snapshotting validating rendering =>
    exact .inr (remembered snapshotting (validating.tracks.trans rendering.tracks))
  | served snapshotting validating rendering serving =>
    exact .inr (remembered snapshotting
      (validating.tracks.trans (rendering.tracks.trans serving.tracks)))

/-- How a drive leaves an attempt and the tree: it counts as mutated if anything was published, and then it
has a head to go back to. -/
structure Driven (rollout : Rollout) (trace : List Exchange) (after : Standing) : Prop where
  counts : after.mutated = publishes trace
  known : after.mutated = true → ∃ head, after.snapshot = some head ∧ rollout.options.dryRun = false
  unrecorded : after.details.rollback = none
  kept : ∀ exchange ∈ trace, exchange.request.isReset = false

theorem Driving.driven {source : IntentSource} {requested : List String} {result : Except Halt Unit}
    (driving : Driving rollout started source requested {} trace result after) :
    Driven rollout trace after := by
  obtain ⟨idle, _, rfl⟩ | ⟨opening, head, time, work, rfl, idle, tracks⟩ := driving.course
  · exact ⟨idle.unpublished.symm, nofun, rfl, idle.kept⟩
  · have counts : after.mutated = publishes work := tracks.counts
    refine ⟨?_, fun mutated => ⟨head, tracks.remembers, tracks.real (counts.symm.trans mutated)⟩,
      tracks.unrecorded, fun exchange member => ?_⟩
    · rw [publishes_append, idle.unpublished]
      exact counts
    · rcases List.mem_append.mp member with member | member
      · exact idle.kept exchange member
      · rcases List.mem_cons.mp member with rfl | member
        · rfl
        · exact tracks.kept exchange member

/-- With a head to go back to, and for real, the tree is put back to it as often as it takes. -/
theorem RollingBack.tried {head : String} (rollingBack : RollingBack rollout before trace after)
    (known : before.snapshot = some head) (real : rollout.options.dryRun = false) :
    ∃ result error, Tried (.reset head) rollout.options.retry.attempts trace result ∧
      after.snapshot = some head ∧
      after.details.rollback = some ⟨result.toBool, error⟩ ∧
      error ≠ some RolloutError.noSnapshot.message := by
  cases rollingBack with
  | impossible unknown => simp [unknown] at known
  | rehearsed _ dry => simp [dry] at real
  | restored same _ tried =>
    obtain rfl := Option.some_inj.mp (known.symm.trans same)
    exact ⟨_, none, tried, known, rfl, by simp⟩
  | @refused _ _ error same _ tried =>
    obtain rfl := Option.some_inj.mp (known.symm.trans same)
    exact ⟨_, some error.message, tried, known, rfl,
      fun same => error.message_ne_noSnapshot (Option.some_inj.mp same)⟩

end Attempt

def Returning (attempts : Nat) (trace : List Exchange) : Prop :=
  trace = [] ∨ ∃ head result, Tried (.reset head) attempts trace result

/-- The tree was put back: after the last publication to the head that the one snapshot returned that
succeeded, and again as long as that failed in a transient way and another try was allowed. -/
inductive Restored (attempts : Nat) : List Exchange → Prop where
  | intro {opening head time work closing result} (idle : Attempt.Idle opening)
      (published : publishes work = true)
      (untaken : ∀ exchange ∈ work, exchange.request.isSnapshot = false)
      (kept : ∀ exchange ∈ work, exchange.request.isReset = false)
      (tried : Tried (.reset head) attempts closing result) :
      Restored attempts (opening ++ .snapshot ⟨.ok head, time⟩ :: (work ++ closing))

/-- What an attempt does to the delivery tree, whatever it was answered. -/
structure TreeKept (attempts : Nat) (trace : List Exchange) (conclusion : Conclusion) : Prop where
  untouched : publishes trace = false → ∀ exchange ∈ trace, exchange.request.isReset = false
  restored : publishes trace = true → conclusion.outcome ≠ .succeeded → Restored attempts trace
  released : conclusion.outcome = .succeeded → ∀ exchange ∈ trace, exchange.request.isReset = false
  /-- Putting the tree back never fails for want of a head. -/
  remembered : ∀ report record, conclusion.report = some report → report.details.rollback = some record →
    report.rollbackPoint.isSome = true ∧ record.error ≠ some RolloutError.noSnapshot.message

/-- An attempt that ends is either left as it stands, and then it succeeded or had not published, or the
tree is put back to what it remembers. -/
theorem Attempt.Concluding.settled {rollout : Rollout} {started : Instant} {standing : Standing}
    {result : Except Halt Unit} {trace : List Exchange} {conclusion : Conclusion}
    (concluding : Attempt.Concluding rollout started result standing trace conclusion)
    (known : standing.mutated = true →
      ∃ head, standing.snapshot = some head ∧ rollout.options.dryRun = false)
    (unrecorded : standing.details.rollback = none) :
    (trace = [] ∧ (conclusion.outcome = .succeeded ∨ standing.mutated = false) ∧
        ∀ report, conclusion.report = some report → report.details.rollback = none) ∨
      ∃ head restoring error report, standing.mutated = true ∧ standing.snapshot = some head ∧
        conclusion.outcome ≠ .succeeded ∧
        Tried (.reset head) rollout.options.retry.attempts trace restoring ∧
        conclusion.report = some report ∧ report.rollbackPoint = some head ∧
        report.details.rollback = some ⟨restoring.toBool, error⟩ ∧
        error ≠ some RolloutError.noSnapshot.message := by
  obtain ⟨lines, rfl, rfl, rfl⟩ | ⟨rfl, clean, rfl, rfl⟩ | ⟨halt, after, lines, rfl, tidying, rfl⟩ :=
    concluding.parted
  · refine .inl ⟨rfl, .inl rfl, ?_⟩
    intro report same
    cases same
    exact unrecorded
  · exact .inl ⟨rfl, .inr clean, fun report impossible => by cases impossible⟩
  · obtain ⟨phase, target, error, marked⟩ := standing.halted_eq halt
    rw [marked] at tidying
    cases tidying with
    | untouched clean =>
      refine .inl ⟨rfl, .inr clean, ?_⟩
      intro report same
      cases same
      exact unrecorded
    | mutated mutated rollingBack =>
      obtain ⟨head, remembered, real⟩ := known mutated
      obtain ⟨restoring, error, tried, snapshot, record, other⟩ := rollingBack.tried remembered real
      exact .inr ⟨head, restoring, error, _, mutated, remembered, outcomeOf_error_ne halt,
        tried, rfl, snapshot, record, other⟩

theorem Attempt.Concluding.returns {rollout : Rollout} {started : Instant} {result : Except Halt Unit}
    {standing : Standing} {driven trace : List Exchange} {conclusion : Conclusion}
    (concluding : Attempt.Concluding rollout started result standing trace conclusion)
    (left : Attempt.Driven rollout driven standing) :
    trace = [] ∨ publishes driven = true ∧ conclusion.outcome ≠ .succeeded ∧
      ∃ head restoring, Tried (.reset head) rollout.options.retry.attempts trace restoring := by
  obtain ⟨same, _⟩ | ⟨head, restoring, _, _, mutated, _, stopped, tried, _⟩ :=
    concluding.settled left.known left.unrecorded
  · exact .inl same
  · exact .inr ⟨left.counts.symm.trans mutated, stopped, head, restoring, tried⟩

theorem Rollout.restored_of_published {rollout : Rollout} {started : Instant} {source : IntentSource}
    {requested : List String} {trace : List Exchange} {conclusion : Conclusion}
    (ran : (rollout.plan started source requested).Run trace conclusion)
    (published : publishes trace = true) (failed : conclusion.outcome ≠ .succeeded) :
    Restored rollout.options.retry.attempts trace := by
  obtain ⟨driven, result, standing, ended, rfl, driving, concluding⟩ := Rollout.run_plan ran
  have left := driving.driven
  obtain ⟨rfl, clean, _⟩ | ⟨head, restoring, error, report, mutated, remembered, _, tried, _⟩ :=
    concluding.settled left.known left.unrecorded
  · rw [List.append_nil, ← left.counts] at published
    rcases clean with succeeded | clean
    · exact absurd succeeded failed
    · rw [clean] at published
      cases published
  · obtain ⟨idle, _, rfl⟩ | ⟨opening, taken, time, work, rfl, idle, tracks⟩ := driving.course
    · cases mutated
    · obtain rfl := Option.some_inj.mp (tracks.remembers.symm.trans remembered)
      have counts : standing.mutated = publishes work := tracks.counts
      rw [List.append_assoc, List.cons_append]
      exact .intro idle (counts.symm.trans mutated) tracks.untaken tracks.kept tried

/-- Every attempt keeps the delivery tree, for every answer to every request and before anything is
filed: requests are the only way to the tree, and writing the report is none. -/
theorem Rollout.tree_kept {rollout : Rollout} {started : Instant} {source : IntentSource}
    {requested : List String} {trace : List Exchange} {conclusion : Conclusion}
    (ran : (rollout.plan started source requested).Run trace conclusion) :
    TreeKept rollout.options.retry.attempts trace conclusion := by
  have restored := Rollout.restored_of_published ran
  obtain ⟨driven, result, standing, ended, rfl, driving, concluding⟩ := Rollout.run_plan ran
  have left := driving.driven
  obtain ⟨rfl, _, unrecorded⟩ |
      ⟨head, restoring, error, report, mutated, _, stopped, _, returned, snapshot, record, other⟩ :=
    concluding.settled left.known left.unrecorded
  · rw [List.append_nil] at restored ⊢
    refine ⟨fun _ => left.kept, restored, fun _ => left.kept, ?_⟩
    intro report record same recorded
    rw [unrecorded report same] at recorded
    cases recorded
  · refine ⟨?_, restored, fun succeeded => absurd succeeded stopped, ?_⟩
    · intro quiet
      rw [publishes_append, ← left.counts, mutated] at quiet
      cases quiet
    · intro again record' reported recorded
      obtain rfl := Option.some_inj.mp (returned.symm.trans reported)
      obtain rfl := Option.some_inj.mp (record.symm.trans recorded)
      exact ⟨by rw [snapshot]; rfl, other⟩

def Rollout.unattended : Rollout where
  config := {}
  options := { mode := .headless, slo := "latency<=5" }
  watches _ := false

def IntentSource.forBoth : IntentSource :=
  .document (.object [("intentId", .text "i1"), ("targetSite", .text "both")])

def Rollout.both (rollout : Rollout) : Plan Conclusion := rollout.plan ⟨0, 0⟩ .forBoth []

def CannedMetrics.fast : CannedMetrics := { result := .ok (Table.ofList [("latency", .zero false)]) }

/-- The second target cannot be published, and putting the tree back takes two tries. -/
def Rehearsal.secondRefused : Rehearsal where
  script := { metrics := Table.ofList [("edge1", .fast)] }
  effects := Table.ofList
    [("publish:edge2", [.refused (.missingSite "edge2")]), ("reset", [.refused (.task "lost")])]

theorem Rollout.tree_restored_after_refusal :
    (Rehearsal.secondRefused.run Rollout.unattended.both).1.outcome = .failed ∧
      publishes (Rehearsal.secondRefused.exchanges Rollout.unattended.both) = true ∧
      Restored 3 (Rehearsal.secondRefused.exchanges Rollout.unattended.both) := by
  have failed : (Rehearsal.secondRefused.run Rollout.unattended.both).1.outcome = .failed := by
    decide +kernel
  have published : publishes (Rehearsal.secondRefused.exchanges Rollout.unattended.both) = true := by
    decide +kernel
  have kept := Rollout.tree_kept (Rehearsal.secondRefused.ran Rollout.unattended.both)
  exact ⟨failed, published, kept.restored published (by rw [failed]; decide)⟩

end IntentRollout
