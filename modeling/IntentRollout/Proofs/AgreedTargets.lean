import Mathlib.Data.List.Induction
import IntentRollout.Proofs.PublishedFiles
import IntentRollout.Proofs.ValidConfigurations

/-! Targets are found in three places: when an intent is compiled on the command line, when it is compiled for
targets as they are given, and when an attempt settles its targets before it renders them. All three refuse the
same names and compile the same bundles. An attempt goes through its targets one after the other, and as none of
them is there twice, no site is published twice. -/

namespace IntentRollout

structure ByFirstAppearance (names chosen : List String) : Prop where
  same : ∀ name, name ∈ chosen ↔ name ∈ names
  ordered : chosen.Pairwise fun earlier later => names.idxOf earlier < names.idxOf later

namespace ByFirstAppearance

variable {names chosen : List String}

theorem nodup (listed : ByFirstAppearance names chosen) : chosen.Nodup := by
  apply listed.ordered.imp
  rintro earlier _ less rfl
  exact Nat.lt_irrefl _ less

theorem unique {others : List String} (one : ByFirstAppearance names chosen)
    (other : ByFirstAppearance names others) : chosen = others := by
  have permuted : chosen.Perm others :=
    (List.perm_ext_iff_of_nodup one.nodup other.nodup).mpr fun name => (one.same name).trans (other.same name).symm
  apply permuted.eq_of_pairwise _ one.ordered other.ordered
  intro earlier later _ _ less more
  exact (Nat.lt_asymm less more).elim

end ByFirstAppearance

/-- Names are dropped wherever they come again, so it is the last one that decides what is added. -/
theorem byFirstAppearance_eraseDups (names : List String) : ByFirstAppearance names names.eraseDups := by
  refine ⟨fun _ => List.mem_eraseDups, ?_⟩
  induction names using List.reverseRecOn with
  | nil => exact .nil
  | append_singleton names name ih =>
    have kept : names.eraseDups.Pairwise fun earlier later =>
        (names ++ [name]).idxOf earlier < (names ++ [name]).idxOf later := by
      apply ih.imp_of_mem
      intro earlier later first second less
      rwa [List.idxOf_append_of_mem (List.mem_eraseDups.mp first),
        List.idxOf_append_of_mem (List.mem_eraseDups.mp second)]
    rw [List.eraseDups_append]
    by_cases known : name ∈ names
    · simpa [List.removeAll, known] using kept
    · have added : ([name].removeAll names).eraseDups = [name] := by simp [List.removeAll, known, List.eraseDups_cons]
      rw [added, List.pairwise_append]
      refine ⟨kept, List.pairwise_singleton _ _, ?_⟩
      intro earlier first later last
      rw [List.mem_singleton.mp last, List.idxOf_append_of_mem (List.mem_eraseDups.mp first),
        List.idxOf_append_of_notMem known]
      exact Nat.lt_of_lt_of_le (List.idxOf_lt_length_of_mem (List.mem_eraseDups.mp first)) (Nat.le_add_right _ _)

namespace Config

variable {config : Config} {instant : Instant} {intent : Intent} {requested targets : List String}

/-- The names that targets are taken from: those requested, or without any the one of the intent. -/
def asked (config : Config) (intent : Intent) (requested : List String) : List String :=
  if requested = [] then [config.intentTarget intent] else requested

def named (config : Config) (target : String) : List String :=
  if targetsAllSites target then config.siteNames else [target]

private theorem resolveTarget?_eq_some {target : String} {sites : List String} :
    config.resolveTarget? target = some sites ↔ target ∈ config.targetNames ∧ sites = config.named target := by
  rw [mem_targetNames, resolveTarget?, named]
  by_cases all : targetsAllSites target = true
  · rw [if_pos all, if_pos all, Option.some_inj, and_iff_right (.inl all), eq_comm]
  · rw [if_neg all, if_neg all, or_iff_right all]
    split
    next known => rw [Option.some_inj, and_iff_right known, eq_comm]
    next unknown => exact iff_of_false (Option.some_ne_none _).symm fun both => unknown both.1

private theorem mapM_resolveTarget_eq_ok {groups : List (List String)} :
    targets.mapM config.resolveTarget = .ok groups ↔
      (∀ target ∈ targets, target ∈ config.targetNames) ∧ groups = targets.map config.named := by
  have named {groups : List (List String)} (resolved : targets.mapM config.resolveTarget = .ok groups) :
      groups = targets.map config.named := by
    rw [eq_comm, ← List.forall₂_eq_eq_eq, List.forall₂_map_left_iff]
    apply (mapM_eq_ok.mp resolved).imp
    intro target sites stands
    rw [resolveTarget_eq_ok, resolveTarget?_eq_some] at stands
    exact stands.2.symm
  constructor
  · intro resolved
    refine ⟨fun target member => exists_resolveTarget.mp ?_, named resolved⟩
    exact exists_mapM_eq_ok.mp ⟨groups, resolved⟩ target member
  · rintro ⟨known, rfl⟩
    obtain ⟨groups, resolved⟩ := exists_mapM_eq_ok.mpr fun target member =>
      exists_resolveTarget.mpr (known target member)
    rw [resolved, named resolved]

private theorem resolveTargets_eq_ok {sites : List String} : config.resolveTargets targets = .ok sites ↔
    (∀ target ∈ targets, target ∈ config.targetNames) ∧ sites = (targets.flatMap config.named).eraseDups := by
  simp only [resolveTargets, bind_eq_ok, mapM_resolveTarget_eq_ok, List.flatMap_def, Except.ok.injEq]
  constructor
  · rintro ⟨groups, ⟨known, rfl⟩, rfl⟩
    exact ⟨known, rfl⟩
  · rintro ⟨known, rfl⟩
    exact ⟨_, ⟨known, rfl⟩, rfl⟩

/-- Known names mean configured sites only. -/
theorem configured_of_named (known : ∀ target ∈ targets, target ∈ config.targetNames) :
    targets.flatMap config.named ⊆ config.siteNames := by
  rw [List.flatMap_def]
  exact configured_of_mapM (mapM_resolveTarget_eq_ok.mpr ⟨known, rfl⟩)

private theorem compileFor_of_known (known : ∀ target ∈ targets, target ∈ config.targetNames) :
    config.compileFor instant intent targets = config.compileSites instant intent (targets.flatMap config.named) := by
  rw [List.flatMap_def]
  exact compileFor_of_resolved (mapM_resolveTarget_eq_ok.mpr ⟨known, rfl⟩)

private theorem known_of_configured (configured : targets ⊆ config.siteNames) :
    ∀ target ∈ targets, target ∈ config.targetNames :=
  fun _ member => List.mem_cons_of_mem _ (List.mem_cons_of_mem _ (configured member))

/-- Compiling for names is compiling for the sites that they mean, each taken once. -/
theorem compileFor_named (known : ∀ target ∈ targets, target ∈ config.targetNames) :
    config.compileFor instant intent (targets.flatMap config.named).eraseDups =
      config.compileFor instant intent targets := by
  have same (site : String) : site ∈ (targets.flatMap config.named).eraseDups ↔ site ∈ targets.flatMap config.named :=
    List.mem_eraseDups
  have configured : (targets.flatMap config.named).eraseDups ⊆ config.siteNames := fun site member =>
    configured_of_named known ((same site).mp member)
  have once := mapM_resolveTarget_eq_ok.mpr ⟨known, rfl⟩
  have again := mapM_resolveTarget_eq_ok.mpr ⟨known_of_configured configured, rfl⟩
  rw [compileFor_of_resolved again, compileFor_of_known known]
  symm
  apply compileSites_congr (configured_of_named known)
  intro site
  rw [← same]
  exact mem_of_all_resolved_again once (by simpa only [← List.flatMap_def] using same) again site

private theorem compileRequested_of_requested (given : requested ≠ []) :
    config.compileRequested instant intent requested = config.compileFor instant intent requested := by
  rw [compileRequested, if_neg (by simpa using given)]
  cases resolved : requested.mapM config.resolveTarget with
  | error error => rw [resolveTargets, compileFor, resolved]; rfl
  | ok groups =>
    obtain ⟨known, -⟩ := mapM_resolveTarget_eq_ok.mp resolved
    rw [resolveTargets_eq_ok.mpr ⟨known, rfl⟩]
    exact compileFor_named known

private theorem compileRequested_of_none :
    config.compileRequested instant intent [] = config.compileFor instant intent [config.intentTarget intent] := by
  rw [compileRequested, if_pos List.isEmpty_nil, compile, compileFor, intentTargets, List.mapM_cons, List.mapM_nil]
  cases config.resolveTarget (config.intentTarget intent) with
  | error error => rfl
  | ok sites =>
    change config.compileSites instant intent sites = config.compileSites instant intent [sites].flatten
    rw [List.flatten_singleton]

/-- What is compiled on the command line is compiled for the names asked for. -/
theorem compileRequested_eq :
    config.compileRequested instant intent requested = config.compileFor instant intent (config.asked intent requested) := by
  rw [asked]
  split
  next none => rw [none, compileRequested_of_none]
  next given => exact compileRequested_of_requested given

end Config

namespace Attempt

variable {config : Config} {intent : Intent} {requested targets : List String}

private theorem targets_eq :
    Attempt.targets config intent requested = requestedTargets config (config.asked intent requested) := by
  rw [Attempt.targets, Config.asked]
  split
  next none => rw [if_pos (List.isEmpty_iff.mp none)]
  next given => rw [if_neg (mt List.isEmpty_iff.mpr given)]

def refusal : CompileError → RolloutError
  | .unknownSite target known => .unknownTarget target known
  | error => .compile error

private theorem requestedTargets_eq :
    requestedTargets config requested = (config.resolveTargets requested).mapError refusal := by
  have all : (requested.mapM fun target => (config.resolveTarget target).mapError refusal) =
      (requested.mapM config.resolveTarget).mapError refusal := by
    induction requested with
    | nil => rfl
    | cons target others ih =>
      rw [List.mapM_cons, List.mapM_cons, ih]
      cases config.resolveTarget target with
      | error error => rfl
      | ok sites => cases others.mapM config.resolveTarget <;> rfl
  calc requestedTargets config requested
    _ = (requested.mapM fun target => (config.resolveTarget target).mapError refusal) >>= fun sites =>
          .ok sites.flatten.eraseDups := by
      unfold requestedTargets
      congr 2
      funext target
      rw [Config.resolveTarget]
      cases config.resolveTarget? target <;> rfl
    _ = (config.resolveTargets requested).mapError refusal := by
      rw [all, Config.resolveTargets]
      cases requested.mapM config.resolveTarget <;> rfl

private theorem targets_eq_ok : Attempt.targets config intent requested = .ok targets ↔
    (∀ name ∈ config.asked intent requested, name ∈ config.targetNames) ∧
      targets = ((config.asked intent requested).flatMap config.named).eraseDups := by
  rw [targets_eq, requestedTargets_eq, ← Config.resolveTargets_eq_ok]
  cases config.resolveTargets (config.asked intent requested) <;> simp [Except.mapError]

private theorem targets_eq_error {error : RolloutError}
    (refused : Attempt.targets config intent requested = .error error) :
    ∃ front name rest, config.asked intent requested = front ++ name :: rest ∧
      (∀ earlier ∈ front, earlier ∈ config.targetNames) ∧ name ∉ config.targetNames ∧
      error = .unknownTarget name config.knownSites := by
  rw [targets_eq, requestedTargets_eq, Config.resolveTargets] at refused
  cases resolved : (config.asked intent requested).mapM config.resolveTarget with
  | ok groups =>
    rw [resolved] at refused
    cases refused
  | error earlier =>
    rw [resolved] at refused
    cases refused
    obtain ⟨front, name, rest, split, known, unknown, rfl⟩ := Config.mapM_resolveTarget_eq_error resolved
    exact ⟨front, name, rest, split, known, unknown, rfl⟩

end Attempt

def publications (trace : List Exchange) : List (String × Except DeliveryError (Option String)) :=
  trace.filterMap fun
    | ⟨.publish site _ _, reply⟩ => some (site, reply.value)
    | _ => none

/-- Publications that go through targets in turn, and come again only after a failure that may pass. -/
structure PublishedInTurn (targets : List String)
    (published : List (String × Except DeliveryError (Option String))) : Prop where
  inTurn : ∃ tries : String → Nat,
    published.map Prod.fst = targets.flatMap fun target => List.replicate (tries target) target
  again : published.Pairwise fun earlier later =>
    earlier.1 = later.1 → ∃ error, earlier.2 = .error error ∧ error.isTransient = true

private theorem publications_append (first rest : List Exchange) :
    publications (first ++ rest) = publications first ++ publications rest :=
  List.filterMap_append

private theorem publications_of_unpublished {trace : List Exchange}
    (quiet : ∀ exchange ∈ trace, exchange.request.isPublish = false) : publications trace = [] := by
  apply List.filterMap_eq_nil_iff.mpr
  intro exchange member
  have unpublished := quiet exchange member
  obtain ⟨request, reply⟩ := exchange
  cases request <;> first | rfl | cases unpublished

private theorem publications_acted (trace : List Exchange) : publications (acted trace) = publications trace := by
  rw [publications, publications, acted, List.filterMap_filter]
  congr 1
  funext exchange
  obtain ⟨request, reply⟩ := exchange
  cases request <;> rfl

private theorem publications_map_publish (site : String) (files : List RenderedFile) (message : String)
    (replies : List (Timed (Except DeliveryError (Option String)))) :
    publications (replies.map (.publish site files message)) = replies.map fun reply => (site, reply.value) := by
  induction replies with
  | nil => rfl
  | cons reply others ih => exact congrArg _ ih

/-- All tries but the last have failed. -/
theorem TriedOut.pairwise {attempts : Nat} {replies : List (Timed (Except DeliveryError (Option String)))}
    {result : Except DeliveryError (Option String)} (tried : TriedOut attempts replies result) :
    replies.Pairwise fun earlier _ => ∃ error, earlier.value = .error error ∧ error.isTransient = true := by
  have failed := tried.transient
  clear tried
  induction replies with
  | nil => exact .nil
  | cons reply others ih =>
    cases others with
    | nil => exact List.pairwise_singleton _ _
    | cons next others =>
      rw [List.dropLast_cons_cons, List.forall_mem_cons] at failed
      exact List.pairwise_cons.mpr ⟨fun _ _ => failed.1, ih failed.2⟩

/-- For a target only that target is published, until a try settles it. -/
theorem Visited.publications {rollout : Rollout} {objectives : Gate} {target message : String}
    {files : List RenderedFile} {trace : List Exchange} {passed : Bool}
    (visited : Visited rollout objectives target files message trace passed) :
    ∃ replies result, TriedOut rollout.options.retry.attempts replies result ∧
      publications trace = replies.map fun reply => (target, reply.value) := by
  have waited {waiting : List Exchange} {revision : Option String} {convergence : Convergence}
      (awaited : Awaited (rollout.watches target) target revision rollout.options.verify waiting convergence) :
      IntentRollout.publications waiting = [] :=
    publications_of_unpublished (awaited.owned.no_publish (by simp))
  cases visited with
  | unpublished tried | unawaited tried => exact ⟨_, _, tried, publications_map_publish _ _ _ _⟩
  | ungated tried awaited =>
    refine ⟨_, _, tried, ?_⟩
    rw [publications_append, publications_map_publish, waited awaited, List.append_nil]
  | judged tried awaited | passed tried awaited =>
    refine ⟨_, _, tried, ?_⟩
    rw [publications_append, publications_append, publications_map_publish, waited awaited]
    exact List.append_nil _

private theorem ReturnedTo.publications {attempts : Nat} {head : String} {trace : List Exchange}
    (returned : ReturnedTo attempts head trace) : publications trace = [] := by
  apply publications_of_unpublished
  cases returned with
  | none => exact nofun
  | tried => simp [Request.isPublish]

namespace PublishedInTurn

variable {targets : List String} {published : List (String × Except DeliveryError (Option String))}

theorem none : PublishedInTurn targets [] :=
  ⟨⟨fun _ => 0, by simp⟩, .nil⟩

private theorem mem_targets (inTurn : PublishedInTurn targets published) :
    ∀ publication ∈ published, publication.1 ∈ targets := by
  intro publication member
  obtain ⟨tries, same⟩ := inTurn.inTurn
  have listed : publication.1 ∈ published.map Prod.fst := List.mem_map_of_mem member
  rw [same] at listed
  obtain ⟨target, inside, repeated⟩ := List.mem_flatMap.mp listed
  rwa [List.eq_of_mem_replicate repeated]

theorem cons {attempts : Nat} {target : String} {replies : List (Timed (Except DeliveryError (Option String)))}
    {result : Except DeliveryError (Option String)} (tried : TriedOut attempts replies result)
    (others : PublishedInTurn targets published) (fresh : target ∉ targets) :
    PublishedInTurn (target :: targets) ((replies.map fun reply => (target, reply.value)) ++ published) := by
  constructor
  · obtain ⟨tries, same⟩ := others.inTurn
    refine ⟨fun other => if other = target then replies.length else tries other, ?_⟩
    have kept : (targets.flatMap fun other => List.replicate (if other = target then replies.length else tries other)
        other) = targets.flatMap fun other => List.replicate (tries other) other := by
      rw [List.flatMap_def, List.flatMap_def]
      congr 1
      apply List.map_congr_left
      intro other member
      rw [if_neg (ne_of_mem_of_not_mem member fresh)]
    simp only [List.map_append, List.flatMap_cons, if_true, kept, same, List.map_map, Function.comp_def,
      List.map_const']
  · rw [List.pairwise_append]
    refine ⟨List.pairwise_map.mpr (tried.pairwise.imp ?_), others.again, ?_⟩
    · exact fun failed _ => failed
    · intro earlier first later second same
      obtain ⟨reply, -, rfl⟩ := List.mem_map.mp first
      have listed : later.1 ∈ targets := others.mem_targets later second
      rw [← same] at listed
      exact (fresh listed).elim

end PublishedInTurn

private theorem VisitedInTurn.publishedInTurn {rollout : Rollout} {objectives : Gate}
    {files : String → List RenderedFile}
    {message : String → String} {targets : List String} {trace : List Exchange}
    (visits : VisitedInTurn rollout objectives files message targets trace) (distinct : targets.Nodup) :
    PublishedInTurn targets (publications trace) := by
  induction visits with
  | none => exact .none
  | last visited =>
    obtain ⟨replies, result, tried, same⟩ := visited.publications
    have only := PublishedInTurn.none.cons tried (List.nodup_cons.mp distinct).1
    rwa [List.append_nil, ← same] at only
  | onward visited _ ih =>
    obtain ⟨fresh, distinct⟩ := List.nodup_cons.mp distinct
    obtain ⟨replies, result, tried, same⟩ := visited.publications
    rw [publications_append, same]
    exact (ih distinct).cons tried fresh

structure AgreedTargets (rollout : Rollout) (started : Instant) (intent : Intent) (requested : List String) : Prop where
  listed : ∀ targets, Attempt.targets rollout.config intent requested = .ok targets →
    ByFirstAppearance ((rollout.config.asked intent requested).flatMap rollout.config.named) targets ∧
      targets.Nodup ∧ targets ⊆ rollout.config.siteNames
  known : (∃ targets, Attempt.targets rollout.config intent requested = .ok targets) ↔
    ∀ name ∈ rollout.config.asked intent requested, name ∈ rollout.config.targetNames
  /-- It is the first unknown name that is refused. -/
  refused : ∀ error, Attempt.targets rollout.config intent requested = .error error →
    ∃ front name rest, rollout.config.asked intent requested = front ++ name :: rest ∧
      (∀ earlier ∈ front, earlier ∈ rollout.config.targetNames) ∧ name ∉ rollout.config.targetNames ∧
      error = .unknownTarget name rollout.config.knownSites
  accepted : ∀ targets objectives, Attempt.accept rollout intent requested = .ok (targets, objectives) ↔
    intent.missingFields rollout.options.requiredFields = [] ∧
      Attempt.targets rollout.config intent requested = .ok targets ∧ Gate.read rollout.options.slo = .ok objectives
  compiled : ∀ compilation, rollout.config.compileRequested started intent requested = .ok compilation ↔
    ∃ targets, Attempt.targets rollout.config intent requested = .ok targets ∧
      rollout.config.compileFor started intent targets = .ok compilation
  /-- Targets that are given need not be taken apart before. -/
  given : requested ≠ [] → rollout.config.compileFor started intent requested =
    rollout.config.compileRequested started intent requested

/-- What an attempt publishes, for an intent that it has accepted. -/
inductive PublishedOnce (rollout : Rollout) (started : Instant) (requested : List String) (trace : List Exchange) : Prop where
  | unpublished (none : publications trace = []) : PublishedOnce rollout started requested trace
  | inTurn {document intent targets compilation} (read : Intent.ofJson document = .ok intent)
      (resolved : Attempt.targets rollout.config intent requested = .ok targets)
      (compiled : rollout.config.compileFor started intent targets = .ok compilation)
      (published : PublishedInTurn targets (publications trace)) : PublishedOnce rollout started requested trace

namespace Attempt

variable {rollout : Rollout} {started : Instant} {requested : List String}

private theorem agreedTargets (rollout : Rollout) (started : Instant) (intent : Intent) (requested : List String) :
    AgreedTargets rollout started intent requested where
  listed targets resolved := by
    obtain ⟨known, rfl⟩ := targets_eq_ok.mp resolved
    have ordered := byFirstAppearance_eraseDups
      ((rollout.config.asked intent requested).flatMap rollout.config.named)
    exact ⟨ordered, ordered.nodup, fun site member => Config.configured_of_named known ((ordered.same site).mp member)⟩
  known := by
    constructor
    · rintro ⟨targets, resolved⟩
      exact (targets_eq_ok.mp resolved).1
    · intro known
      exact ⟨_, targets_eq_ok.mpr ⟨known, rfl⟩⟩
  refused _ failed := targets_eq_error failed
  accepted _ _ := accept_eq_ok
  compiled compilation := by
    rw [Config.compileRequested_eq]
    constructor
    · intro compiled
      have known : ∀ name ∈ rollout.config.asked intent requested, name ∈ rollout.config.targetNames :=
        fun name member => Config.exists_resolveTarget.mp ((Config.exists_compileFor.mp ⟨_, compiled⟩).2 name member)
      exact ⟨_, targets_eq_ok.mpr ⟨known, rfl⟩, (Config.compileFor_named known).trans compiled⟩
    · rintro ⟨targets, resolved, compiled⟩
      obtain ⟨known, rfl⟩ := targets_eq_ok.mp resolved
      exact (Config.compileFor_named known).symm.trans compiled
  given asked := (Config.compileRequested_of_requested asked).symm

private theorem Driving.publishedOnce {source : IntentSource} {result : Except Halt Unit} {trace : List Exchange}
    {after : Standing} (driving : Driving rollout started source requested {} trace result after) :
    PublishedOnce rollout started requested trace := by
  have ordered := driving.order (fun _ member => member) (fun _ => rfl) (fun _ _ => .none)
  have snapshots (replies : List (Timed (Except DeliveryError String))) :
      publications (replies.map .snapshot) = [] :=
    publications_of_unpublished (publishes_eq_false.mp (publishes_map_snapshot replies))
  rw [List.append_nil] at ordered
  generalize calls : acted trace = called at ordered
  have same : publications called = publications trace := by rw [← calls, publications_acted]
  cases ordered with
  | interrupted => exact .unpublished same.symm
  | unprepared => exact .unpublished (same.symm.trans (snapshots _))
  | prepared _ _ read _ resolved distinct _ compiled visited returned =>
    refine .inTurn read resolved compiled ?_
    rw [← same, publications_append, publications_append, snapshots, returned.publications, List.append_nil]
    exact visited.publishedInTurn distinct

end Attempt

/-- Targets mean the same sites wherever they are compiled, and in an attempt every site is published once. -/
theorem Rollout.targets_agreed (rollout : Rollout) (started : Instant) (requested : List String) :
    (∀ intent, AgreedTargets rollout started intent requested) ∧
      ∀ source trace conclusion, (rollout.plan started source requested).Run trace conclusion →
        PublishedOnce rollout started requested trace := by
  refine ⟨fun intent => Attempt.agreedTargets rollout started intent requested, ?_⟩
  intro source trace conclusion ran
  obtain ⟨driven, result, standing, ended, rfl, driving, concluding⟩ := Rollout.run_plan ran
  have left := driving.driven
  have returns : Returning rollout.options.retry.attempts ended :=
    (concluding.returns left).imp id fun ended => ended.2.2
  have same : publications (driven ++ ended) = publications driven := by
    rw [publications_append, publications_of_unpublished returns.unpublished, List.append_nil]
  cases driving.publishedOnce with
  | unpublished none => exact .unpublished (same.trans none)
  | inTurn read resolved compiled published => exact .inTurn read resolved compiled (same ▸ published)

/-- The second site is refused, and then the tree is put back. -/
theorem Rollout.targets_agreed_of_refusal :
    publications (Rehearsal.secondRefused.exchanges Rollout.unattended.both) ≠ [] ∧
      Config.compileFor Rollout.unattended.config ⟨0, 0⟩ Config.bareIntent ["edge2", "all", "edge2"] =
        Config.compileRequested Rollout.unattended.config ⟨0, 0⟩ Config.bareIntent ["edge2", "all", "edge2"] ∧
      PublishedOnce Rollout.unattended ⟨0, 0⟩ [] (Rehearsal.secondRefused.exchanges Rollout.unattended.both) := by
  refine ⟨by decide +kernel, ?_, ?_⟩
  · exact ((Rollout.targets_agreed Rollout.unattended ⟨0, 0⟩ ["edge2", "all", "edge2"]).1 Config.bareIntent).given (by simp)
  · exact (Rollout.targets_agreed Rollout.unattended ⟨0, 0⟩ []).2 .forBoth _ _
      (Rehearsal.secondRefused.ran Rollout.unattended.both)

/-- A list without any target is compiled for no site, but the intent is compiled for its own. -/
theorem Rollout.targets_disagree_without_any :
    ¬ ∀ (rollout : Rollout) (started : Instant) (intent : Intent) (requested : List String) (given settled : Compilation),
      rollout.config.compileFor started intent requested = .ok given →
      rollout.config.compileRequested started intent requested = .ok settled → given.sites = settled.sites := by
  intro agree
  have none : (Rollout.unattended.config.compileFor ⟨0, 0⟩ Config.bareIntent []).toOption.map Compilation.sites =
      some [] := by decide +kernel
  have both : (Rollout.unattended.config.compileRequested ⟨0, 0⟩ Config.bareIntent []).toOption.map Compilation.sites =
      some ["edge1", "edge2"] := by decide +kernel
  obtain ⟨given, compiled, blank⟩ := Option.map_eq_some_iff.mp none
  obtain ⟨settled, requested, filled⟩ := Option.map_eq_some_iff.mp both
  have same := agree Rollout.unattended ⟨0, 0⟩ Config.bareIntent [] given settled (toOption_eq_some.mp compiled)
    (toOption_eq_some.mp requested)
  rw [blank, filled] at same
  cases same

end IntentRollout
