import IntentRollout.Proofs.ResourceDocuments
import IntentRollout.Proofs.SiteIndependence
import IntentRollout.Rollout.Options

/-! What the check of a configuration is good for. It asks for what compiling and rolling out rely on later, so
with a configuration that passes it an intent is refused for its own target only. -/

namespace IntentRollout.Config

variable {config : Config}

def targetNames (config : Config) : List String := "all" :: "both" :: config.siteNames

structure Valid (config : Config) : Prop where
  sited : config.sites.entries ≠ []
  unreserved : ∀ entry ∈ config.sites.entries, ¬ targetsAllSites entry.1 = true
  placed : ∀ entry ∈ config.sites.entries, entry.2.namespaceName ≠ "" ∧ entry.2.cluster ≠ ""
  numbered : ∀ entry ∈ config.sites.entries, isPlmn entry.2.plmn = true
  fallback : Service.embb.key ∈ config.profiles.keys
  ordered : ascending config.qos.breakpoints = true
  defaults : ∀ target ∈ config.defaults.target :: config.defaults.byService.values, target ∈ config.targetNames
  tried : config.rollout.retry.attempts ≠ 0
  timed : ∀ text ∈ config.waits, ∃ milliseconds, readWait text = .ok milliseconds

theorem mem_targetNames {target : String} :
    target ∈ config.targetNames ↔ targetsAllSites target = true ∨ config.sites.contains target = true := by
  simp [targetNames, targetsAllSites, siteNames, Table.contains_iff, or_assoc]

private theorem require_eq_none {holds : Bool} {flaw : ConfigFlaw} : require holds flaw = none ↔ holds = true := by
  cases holds <;> simp [require]

private theorem siteFlaw?_eq_none {name : String} {site : Site} : siteFlaw? name site = none ↔
    ¬ targetsAllSites name = true ∧ (site.namespaceName ≠ "" ∧ site.cluster ≠ "") ∧ isPlmn site.plmn = true := by
  rw [siteFlaw?]
  split
  next reserved => simp [reserved]
  next unreserved =>
    split
    next unnamed =>
      rw [Bool.or_eq_true, String.isEmpty_iff, String.isEmpty_iff] at unnamed
      grind
    next named => simp_all

private theorem defaultFlaw?_eq_none {target : String} :
    config.defaultFlaw? target = none ↔ target ∈ config.targetNames := by
  rw [mem_targetNames, ← Bool.or_eq_true, defaultFlaw?]
  split <;> simp_all

private theorem flaw?_eq_none : config.flaw? = none ↔ config.sites.entries ≠ [] ∧
    (∀ entry ∈ config.sites.entries, siteFlaw? entry.1 entry.2 = none) ∧
    Service.embb.key ∈ config.profiles.keys ∧ ascending config.qos.breakpoints = true ∧
    (∀ target ∈ config.defaults.target :: config.defaults.byService.values, target ∈ config.targetNames) ∧
    config.rollout.retry.attempts ≠ 0 := by
  have sited : (!config.sites.isEmpty) = true ↔ config.sites.entries ≠ [] := by
    simp [Table.isEmpty]
  simp only [flaw?, List.findSome?_eq_none_iff, List.forall_mem_cons, id, require_eq_none, sited,
    Table.contains_iff, defaultFlaw?_eq_none, decide_eq_true_eq, List.not_mem_nil, false_implies, implies_true, and_true]

theorem validate_eq_ok : config.validate = .ok () ↔ Valid config := by
  have passes : config.validate = .ok () ↔ config.flaw? = none ∧
      ∀ text ∈ config.waits, ∃ milliseconds, readWait text = .ok milliseconds := by
    rw [validate]
    split
    next flaw found => simp [found]
    next flawless =>
      rw [forM_eq_ok]
      simp only [flawless, true_and, bind_eq_ok, pure, Except.pure, and_true]
  rw [passes, flaw?_eq_none]
  simp only [siteFlaw?_eq_none]
  constructor
  · rintro ⟨⟨sited, each, fallback, ordered, defaults, tried⟩, timed⟩
    exact ⟨sited, fun entry member => (each entry member).1, fun entry member => (each entry member).2.1,
      fun entry member => (each entry member).2.2, fallback, ordered, defaults, tried, timed⟩
  · intro valid
    exact ⟨⟨valid.sited, fun entry member =>
      ⟨valid.unreserved entry member, valid.placed entry member, valid.numbered entry member⟩,
      valid.fallback, valid.ordered, valid.defaults, valid.tried⟩, valid.timed⟩

theorem exists_resolveTarget {target : String} :
    (∃ sites, config.resolveTarget target = .ok sites) ↔ target ∈ config.targetNames := by
  rw [mem_targetNames]
  simp only [resolveTarget_eq_ok, resolveTarget?]
  by_cases all : targetsAllSites target = true <;> by_cases known : config.sites.contains target = true <;>
    simp [all, known]

private theorem resolveTarget_of_unknown {target : String} (unknown : target ∉ config.targetNames) :
    config.resolveTarget target = .error (.unknownSite target config.knownSites) := by
  rw [mem_targetNames, not_or] at unknown
  rw [resolveTarget, resolveTarget?, if_neg unknown.1, if_neg unknown.2]

/-- Going through targets stops at the first one that stands for nothing. -/
theorem mapM_resolveTarget_eq_error {targets : List String} {error : CompileError}
    (failed : targets.mapM config.resolveTarget = .error error) :
    ∃ front target rest, targets = front ++ target :: rest ∧ (∀ earlier ∈ front, earlier ∈ config.targetNames) ∧
      target ∉ config.targetNames ∧ error = .unknownSite target config.knownSites := by
  induction targets with
  | nil => cases failed
  | cons target rest ih =>
    rw [List.mapM_cons] at failed
    by_cases known : target ∈ config.targetNames
    · obtain ⟨sites, resolved⟩ := exists_resolveTarget.mpr known
      rw [resolved] at failed
      cases others : rest.mapM config.resolveTarget with
      | ok groups =>
        rw [others] at failed
        cases failed
      | error later =>
        rw [others] at failed
        cases failed
        obtain ⟨front, target', rest', rfl, before, unknown, same⟩ := ih others
        exact ⟨target :: front, target', rest', rfl, List.forall_mem_cons.mpr ⟨known, before⟩, unknown, same⟩
    · rw [resolveTarget_of_unknown known] at failed
      cases failed
      exact ⟨[], target, rest, rfl, nofun, known, rfl⟩

namespace Valid

variable (valid : Valid config)

include valid

private theorem resolveTarget_site {site : String} (configured : site ∈ config.siteNames) :
    config.resolveTarget site = .ok [site] := by
  obtain ⟨entry, listed, rfl⟩ := List.mem_map.mp configured
  rw [resolveTarget_eq_ok, resolveTarget?, if_neg (valid.unreserved entry listed),
    if_pos (Table.contains_iff.mpr configured)]

private theorem exists_profile (service : Service) : ∃ profile, config.profile? service = some profile := by
  obtain ⟨fallback, found⟩ := Table.mem_keys.mp valid.fallback
  rw [profile?, found]
  cases config.profiles.get? service.key with
  | none => exact ⟨fallback, rfl⟩
  | some profile => exact ⟨profile, rfl⟩

private theorem defaultTarget_known (service : Service) : config.defaultTarget service ∈ config.targetNames := by
  rw [defaultTarget]
  cases own : config.defaults.byService.get? service.key with
  | none => exact valid.defaults _ List.mem_cons_self
  | some target =>
    exact valid.defaults _
      (List.mem_cons_of_mem _ (List.mem_map_of_mem (Table.get?_eq_some.mp own)))

/-- No target stands for an empty list of sites. -/
theorem resolved_ne_nil {target : String} {sites : List String}
    (resolved : config.resolveTarget target = .ok sites) : sites ≠ [] := by
  rw [resolveTarget_eq_ok, resolveTarget?] at resolved
  split at resolved
  · cases resolved
    exact fun none => valid.sited (List.map_eq_nil_iff.mp none)
  · split at resolved
    · cases resolved
      exact List.cons_ne_nil _ _
    · cases resolved

end Valid

/-- The front of a text of single bytes is cut off by its length. -/
theorem splitBytes?_append {front : List Char} (narrow : ∀ character ∈ front, character.utf8Size = 1)
    (filled : front ≠ []) (rest : List Char) :
    SiteRequest.splitBytes? front.length (front ++ rest) = some (front, rest) := by
  induction front with
  | nil => exact absurd rfl filled
  | cons character others ih =>
    obtain ⟨one, narrow⟩ := List.forall_mem_cons.mp narrow
    rw [List.cons_append, SiteRequest.splitBytes?, one]
    cases others with
    | nil => rfl
    | cons next others =>
      have long : 1 < (character :: next :: others).length := by simp
      rw [if_neg (by omega), if_neg (by omega)]
      exact congrArg _ (ih narrow (List.cons_ne_nil _ _))

private theorem utf8Size_of_isDigit {character : Char} (digit : character.isDigit = true) : character.utf8Size = 1 := by
  rw [Char.utf8Size_eq_one_iff]
  simp only [Char.isDigit, ge_iff_le, Bool.and_eq_true, decide_eq_true_eq] at digit
  exact UInt32.le_trans digit.2 (by decide)

structure Coded (plmn country network : String) : Prop where
  whole : country ++ network = plmn
  digits : (country ++ network).toList.all Char.isDigit = true
  country : country.length = 3
  network : network.length = 2 ∨ network.length = 3

private theorem coded_of_isPlmn {plmn : String} (digits : isPlmn plmn = true) :
    Coded plmn (SiteRequest.plmnCodes plmn).1 (SiteRequest.plmnCodes plmn).2 := by
  obtain ⟨lengths, digits⟩ := Bool.and_eq_true_iff.mp digits
  have length : plmn.toList.length = 5 ∨ plmn.toList.length = 6 := by
    rw [String.length_toList]
    simpa using lengths
  have front : (plmn.toList.take 3).length = 3 := by
    rw [List.length_take]
    omega
  have narrow : ∀ character ∈ plmn.toList.take 3, character.utf8Size = 1 := fun character member =>
    utf8Size_of_isDigit (List.all_eq_true.mp digits character (List.mem_of_mem_take member))
  have split := splitBytes?_append narrow (List.ne_nil_of_length_pos (by omega)) (plmn.toList.drop 3)
  rw [front, List.take_append_drop] at split
  rw [SiteRequest.plmnCodes, split]
  have whole : String.ofList (plmn.toList.take 3) ++ String.ofList (plmn.toList.drop 3) = plmn := by
    rw [← String.ofList_append, List.take_append_drop, String.ofList_toList]
  refine ⟨whole, whole.symm ▸ digits, ?_, ?_⟩
  · rw [String.length_ofList, front]
  · rw [String.length_ofList, List.length_drop]
    omega

def NamesNetwork (site : Site) (resource : Resource) : Prop :=
  ∃ country network, resource.document.within? ["spec", "plmn", "mcc"] = some (.text country) ∧
    resource.document.within? ["spec", "plmn", "mnc"] = some (.text network) ∧ Coded site.plmn country network

private theorem namesNetwork_of_isPlmn (request : SiteRequest) (digits : isPlmn request.site.plmn = true) :
    NamesNetwork request.site request.networkSlice :=
  ⟨_, _, request.networkSlice_country, request.networkSlice_network, coded_of_isPlmn digits⟩

private theorem Valid.namesNetwork (valid : Valid config) {instant : Instant} {intent : Intent} {siteName : String}
    {bundle : Bundle} (made : config.bundle? instant intent siteName = some bundle) {slice : Resource}
    (member : slice ∈ bundle.resources) (kind : slice.kind = .networkSlice) :
    ∃ site, config.sites.get? siteName = some site ∧ NamesNetwork site slice := by
  obtain ⟨profile, _, made⟩ := Option.bind_eq_some_iff.mp made
  obtain ⟨site, listed, same⟩ := Option.bind_eq_some_iff.mp made
  cases same
  rw [SiteRequest.networkSlice_of_mem member kind]
  have digits := valid.numbered _ (Table.get?_eq_some.mp listed)
  exact ⟨site, listed, namesNetwork_of_isPlmn _ digits⟩

namespace Valid

variable {instant : Instant} {intent : Intent}

theorem exists_compileFor_iff (valid : Valid config) {targets : List String} :
    (∃ compilation, config.compileFor instant intent targets = .ok compilation) ↔
      ∀ target ∈ targets, target ∈ config.targetNames := by
  rw [exists_compileFor, and_iff_right (valid.exists_profile intent.service)]
  simp only [exists_resolveTarget]

private theorem compileFor_eq_error (valid : Valid config) {targets : List String} {error : CompileError}
    (failed : config.compileFor instant intent targets = .error error) :
    ∃ front target rest, targets = front ++ target :: rest ∧ (∀ earlier ∈ front, earlier ∈ config.targetNames) ∧
      target ∉ config.targetNames ∧ error = .unknownSite target config.knownSites := by
  cases resolved : targets.mapM config.resolveTarget with
  | error earlier =>
    rw [compileFor, resolved] at failed
    cases failed
    exact mapM_resolveTarget_eq_error resolved
  | ok groups =>
    obtain ⟨compilation, done⟩ : ∃ compilation, config.compileFor instant intent targets = .ok compilation :=
      valid.exists_compileFor_iff.mpr fun target member =>
        exists_resolveTarget.mp (exists_mapM_eq_ok.mp ⟨groups, resolved⟩ target member)
    rw [done] at failed
    cases failed

/-- For its own target an intent is compiled to a bundle at least. -/
theorem exists_compile (valid : Valid config) (known : config.intentTarget intent ∈ config.targetNames) :
    ∃ compilation, config.compile instant intent = .ok compilation ∧ compilation.bundles.keys ≠ [] := by
  obtain ⟨profile, found⟩ := valid.exists_profile intent.service
  obtain ⟨sites, resolved⟩ := exists_resolveTarget.mpr known
  have configured : ∀ site ∈ sites, site ∈ config.siteNames := fun site member =>
    configured_of_resolveTarget resolved member
  obtain ⟨compilation, done, compiled⟩ := compileSites_eq_ok instant found configured
  refine ⟨compilation, bind_eq_ok.mpr ⟨sites, resolved, done⟩, ?_⟩
  obtain ⟨site, member⟩ := List.exists_mem_of_ne_nil sites (valid.resolved_ne_nil resolved)
  obtain ⟨bundle, made⟩ := bundle?_isSome instant found (configured site member)
  apply List.ne_nil_of_mem (a := site)
  refine Table.mem_keys.mpr ⟨bundle, ?_⟩
  rw [compiled.bundled, if_pos member, made]

private theorem compile_eq_error (unknown : config.intentTarget intent ∉ config.targetNames) :
    config.compile instant intent = .error (.unknownSite (config.intentTarget intent) config.knownSites) := by
  rw [compile, intentTargets, resolveTarget_of_unknown unknown]
  rfl

end Valid

private theorem policy_spec (valid : Valid config) : ∃ policy, config.rollout.retry.policy = .ok policy ∧
    policy.attempts = config.rollout.retry.attempts.toNat ∧ 1 ≤ policy.attempts := by
  obtain ⟨initialPause, initial⟩ := valid.timed config.rollout.retry.initialPause (by simp [waits])
  obtain ⟨longestPause, longest⟩ := valid.timed config.rollout.retry.longestPause (by simp [waits])
  refine ⟨RetryPolicy.ofAttempts config.rollout.retry.attempts.toNat initialPause longestPause, ?_, ?_, ?_⟩
  · rw [RetryTexts.policy, initial, longest]
    rfl
  · have : config.rollout.retry.attempts.toNat ≠ 0 := fun none => valid.tried (UInt32.toNat_inj.mp none)
    exact Nat.max_eq_left (by omega)
  · exact Nat.le_max_right _ _

private theorem ofConfig_spec (valid : Valid config) : ∃ options, Options.ofConfig config = .ok options ∧
    config.rollout.retry.policy = .ok options.retry := by
  obtain ⟨gracePeriod, grace⟩ := valid.timed config.rollout.verify.gracePeriod (by simp [waits])
  obtain ⟨pollInterval, poll⟩ := valid.timed config.rollout.verify.pollInterval (by simp [waits])
  obtain ⟨timeout, limit⟩ := valid.timed config.rollout.verify.timeout (by simp [waits])
  obtain ⟨policy, tried, -⟩ := policy_spec valid
  refine ⟨{ slo := config.rollout.slo, requiredFields := config.rollout.requiredFields
            reportDirectory := config.rollout.reportDirectory
            verify := ⟨gracePeriod, pollInterval, timeout⟩, retry := policy }, ?_, tried⟩
  rw [Options.ofConfig, grace, poll, limit, tried]
  rfl

/-- What a configuration can be relied on for. -/
structure Usable (config : Config) : Prop where
  /-- No site is hidden behind a name that stands for all of them. -/
  itself : ∀ site ∈ config.siteNames, config.resolveTarget site = .ok [site]
  compiled : ∀ instant (intent : Intent), (∀ target, intent.targetSite = some target → target ∈ config.targetNames) →
    ∃ compilation, config.compile instant intent = .ok compilation ∧ compilation.bundles.keys ≠ []
  refused : ∀ instant (intent : Intent) target, intent.targetSite = some target → target ∉ config.targetNames →
    config.compile instant intent = .error (.unknownSite target config.knownSites)
  untargeted : ∀ instant (intent : Intent), intent.targetSite = none →
    ∃ compilation, config.compile instant intent = .ok compilation ∧ compilation.bundles.keys ≠ []
  compiledFor : ∀ instant intent targets, (∀ target ∈ targets, target ∈ config.targetNames) →
    ∃ compilation, config.compileFor instant intent targets = .ok compilation
  refusedFor : ∀ instant intent targets error, config.compileFor instant intent targets = .error error →
    ∃ front target rest, targets = front ++ target :: rest ∧ (∀ earlier ∈ front, earlier ∈ config.targetNames) ∧
      target ∉ config.targetNames ∧ error = .unknownSite target config.knownSites
  profiled : ∀ instant intent targets service, config.compile instant intent ≠ .error (.missingProfile service) ∧
    config.compileFor instant intent targets ≠ .error (.missingProfile service)
  sliced : ∀ instant intent targets compilation, config.compile instant intent = .ok compilation ∨
      config.compileFor instant intent targets = .ok compilation →
    ∀ siteName bundle, compilation.bundles.get? siteName = some bundle →
    ∀ slice ∈ bundle.resources, slice.kind = .networkSlice →
    ∃ site, config.sites.get? siteName = some site ∧ NamesNetwork site slice
  retried : ∃ policy, config.rollout.retry.policy = .ok policy ∧
    policy.attempts = config.rollout.retry.attempts.toNat ∧ 1 ≤ policy.attempts
  rolledOut : ∃ options, Options.ofConfig config = .ok options ∧
    options.retry.attempts = config.rollout.retry.attempts.toNat ∧ 1 ≤ options.retry.attempts

/-- An intent for a known target, or for none, is not refused. -/
theorem Valid.intentTarget_known (valid : Valid config) {intent : Intent}
    (known : ∀ target, intent.targetSite = some target → target ∈ config.targetNames) :
    config.intentTarget intent ∈ config.targetNames := by
  rw [intentTarget]
  cases own : intent.targetSite with
  | none => exact valid.defaultTarget_known intent.service
  | some target => exact known target own

theorem usable_of_validate (config : Config) (accepted : config.validate = .ok ()) : Usable config := by
  have valid := validate_eq_ok.mp accepted
  have refused : ∀ instant (intent : Intent) target, intent.targetSite = some target →
      target ∉ config.targetNames →
      config.compile instant intent = .error (.unknownSite target config.knownSites) := by
    intro instant intent target own unknown
    have same : config.intentTarget intent = target := by rw [intentTarget, own]; rfl
    rw [← same] at unknown ⊢
    exact Valid.compile_eq_error unknown
  have compiled : ∀ instant (intent : Intent),
      (∀ target, intent.targetSite = some target → target ∈ config.targetNames) →
      ∃ compilation, config.compile instant intent = .ok compilation ∧ compilation.bundles.keys ≠ [] :=
    fun instant intent known => valid.exists_compile (valid.intentTarget_known known)
  obtain ⟨policy, tried, often⟩ := policy_spec valid
  obtain ⟨options, made, same⟩ := ofConfig_spec valid
  obtain rfl := Except.ok.inj (tried.symm.trans same)
  refine {
    itself := fun site => valid.resolveTarget_site
    compiled, refused
    untargeted := fun instant intent none => compiled instant intent (fun target own => by rw [none] at own; cases own)
    compiledFor := fun instant intent targets => valid.exists_compileFor_iff.mpr
    refusedFor := fun instant intent targets error => valid.compileFor_eq_error
    profiled := ?_
    sliced := ?_
    retried := ⟨_, tried, often⟩
    rolledOut := ⟨options, made, often⟩ }
  · intro instant intent targets service
    constructor
    · intro failed
      by_cases known : config.intentTarget intent ∈ config.targetNames
      · obtain ⟨compilation, done, -⟩ := valid.exists_compile known
        rw [done] at failed
        cases failed
      · rw [Valid.compile_eq_error known] at failed
        cases failed
    · intro failed
      obtain ⟨_, _, _, _, _, _, same⟩ := valid.compileFor_eq_error failed
      cases same
  · intro instant intent targets compilation done siteName bundle held slice member kind
    have made : config.bundle? instant intent siteName = some bundle := by
      rcases done with own | listed
      · rw [compile_eq_compileFor] at own
        obtain ⟨sites, _, listed⟩ := bind_eq_ok.mp own
        obtain ⟨_, _, _, compiled⟩ := compiled_of_compileFor listed
        exact compiled.bundle?_eq held
      · obtain ⟨_, _, _, compiled⟩ := compiled_of_compileFor listed
        exact compiled.bundle?_eq held
    exact valid.namesNetwork made member kind

def laboratory : Config where
  sites := Table.ofList [("lab", ⟨"cluster-a", "lab", "310260", "00001", "0001", none, none⟩)]
  profiles := Table.ofList [("embb", ⟨"8", "16Gi", "100Gi", "embb", "eMBB"⟩)]
  defaults := ⟨"both", Table.ofList [("urllc", "lab")]⟩

theorem laboratory_usable : laboratory.validate = .ok () ∧ Usable laboratory :=
  have accepted : laboratory.validate = .ok () := by decide +kernel
  ⟨accepted, usable_of_validate laboratory accepted⟩

end IntentRollout.Config
