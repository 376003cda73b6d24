import IntentRollout.Bundle.Compilation
import IntentRollout.Proofs.ListResults
import IntentRollout.Proofs.TableLaws

/-! Sites are compiled apart from each other. What a target list compiles to is told by the set of sites
that it stands for, and the bundle of a site by the parts of the configuration that are about it. -/

namespace IntentRollout.Config

variable {config : Config} {instant : Instant} {intent : Intent}

def bundle? (config : Config) (instant : Instant) (intent : Intent) (siteName : String) : Option Bundle := do
  let profile ← config.profile? intent.service
  let site ← config.sites.get? siteName
  some (SiteRequest.bundle ⟨intent, siteName, site, intent.service, profile, config.qos, instant⟩)

theorem resolveTarget_eq_ok {target : String} {sites : List String} :
    config.resolveTarget target = .ok sites ↔ config.resolveTarget? target = some sites := by
  rw [resolveTarget]
  cases config.resolveTarget? target <;> simp

/-- Targets stand for configured sites only. -/
theorem configured_of_resolveTarget {target site : String} {sites : List String}
    (resolved : config.resolveTarget target = .ok sites) (member : site ∈ sites) :
    site ∈ config.siteNames := by
  rw [resolveTarget_eq_ok, resolveTarget?] at resolved
  split at resolved
  · cases resolved
    exact member
  · split at resolved
    next configured =>
      cases resolved
      rw [List.mem_singleton.mp member]
      exact Table.contains_iff.mp configured
    · cases resolved

/-- A configured site stands for itself, and perhaps for others. -/
theorem resolveTarget_of_configured {site : String} (configured : site ∈ config.siteNames) :
    ∃ sites, config.resolveTarget site = .ok sites ∧ site ∈ sites := by
  simp only [resolveTarget_eq_ok, resolveTarget?, Table.contains_iff.mpr configured]
  split
  · exact ⟨_, rfl, configured⟩
  · exact ⟨_, rfl, List.mem_singleton_self site⟩

private theorem siteBundle_eq_ok {profile : Profile} (found : config.profile? intent.service = some profile)
    {site : String} {bundle : Bundle} :
    config.siteBundle instant intent profile site = .ok bundle ↔
      config.bundle? instant intent site = some bundle := by
  rw [siteBundle, bundle?, found]
  cases config.sites.get? site <;> simp

theorem bundle?_isSome (instant : Instant) {profile : Profile} (found : config.profile? intent.service = some profile)
    {site : String} (configured : site ∈ config.siteNames) :
    ∃ bundle, config.bundle? instant intent site = some bundle := by
  obtain ⟨entry, listed⟩ := Table.mem_keys.mp configured
  rw [bundle?, found, listed]
  exact ⟨_, rfl⟩

/-- What some sites compile to, told by which sites they are. -/
structure Compiled (config : Config) (instant : Instant) (intent : Intent) (sites : List String)
    (compilation : Compilation) : Prop where
  shaped : compilation = ⟨intent.id, instant, intent.service, compilation.bundles, intent.warnings⟩
  bundled : ∀ site, compilation.bundles.get? site =
    if site ∈ sites then config.bundle? instant intent site else none

theorem Compiled.bundle?_eq {sites : List String} {compilation : Compilation}
    (compiled : Compiled config instant intent sites compilation) {site : String} {bundle : Bundle}
    (held : compilation.bundles.get? site = some bundle) :
    config.bundle? instant intent site = some bundle := by
  rw [compiled.bundled] at held
  split at held
  · exact held
  · cases held

/-- Each bundle is made for a request about the entry of its site. -/
theorem Compiled.request {sites : List String} {compilation : Compilation}
    (compiled : Compiled config instant intent sites compilation) {site : String} {bundle : Bundle}
    (held : compilation.bundles.get? site = some bundle) :
    ∃ request : SiteRequest, request.bundle = bundle ∧ request.intent = intent ∧ request.siteName = site ∧
      request.instant = instant ∧ config.sites.get? site = some request.site := by
  obtain ⟨profile, _, found⟩ := Option.bind_eq_some_iff.mp (compiled.bundle?_eq held)
  obtain ⟨entry, known, same⟩ := Option.bind_eq_some_iff.mp found
  exact ⟨_, Option.some_inj.mp same, rfl, rfl, rfl, known⟩

theorem Compiled.unique {sites others : List String} {first second : Compilation}
    (one : Compiled config instant intent sites first) (other : Compiled config instant intent others second)
    (same : ∀ site, site ∈ sites ↔ site ∈ others) : first = second := by
  have bundles : first.bundles = second.bundles := by
    apply Table.ext_get?
    intro site
    rw [one.bundled, other.bundled]
    simp only [same]
  rw [one.shaped, other.shaped, bundles]

theorem compileSites_eq_ok (instant : Instant) {profile : Profile}
    (found : config.profile? intent.service = some profile) {sites : List String} (configured : ∀ site ∈ sites, site ∈ config.siteNames) :
    ∃ compilation, config.compileSites instant intent sites = .ok compilation ∧
      Compiled config instant intent sites compilation := by
  obtain ⟨bundles, done⟩ : ∃ bundles, (sites.mapM fun site =>
      (config.siteBundle instant intent profile site).map fun bundle => (site, bundle)) = .ok bundles := by
    apply exists_mapM_eq_ok.mpr
    intro site member
    obtain ⟨bundle, made⟩ := bundle?_isSome instant found (configured site member)
    exact ⟨(site, bundle), map_eq_ok.mpr ⟨bundle, (siteBundle_eq_ok found).mpr made, rfl⟩⟩
  have made {entry : String × Bundle} : entry ∈ bundles ↔
      entry.1 ∈ sites ∧ config.bundle? instant intent entry.1 = some entry.2 := by
    simp only [mem_of_mapM done, map_eq_ok, siteBundle_eq_ok found]
    constructor
    · rintro ⟨site, member, bundle, same, rfl⟩
      exact ⟨member, same⟩
    · rintro ⟨member, same⟩
      exact ⟨entry.1, member, entry.2, same, rfl⟩
  refine ⟨⟨intent.id, instant, intent.service, Table.ofList bundles, intent.warnings⟩, ?_, rfl, ?_⟩
  · rw [compileSites, found]
    exact bind_eq_ok.mpr ⟨bundles, done, rfl⟩
  · apply Table.get?_ofList_of_agree fun site => if site ∈ sites then _ else none
    · intro entry member
      obtain ⟨member, same⟩ := made.mp member
      rw [if_pos member, same]
    · intro site bundle same
      split at same
      next member => exact made.mpr ⟨member, same⟩
      · cases same

theorem compileSites_congr {sites others : List String} (configured : ∀ site ∈ sites, site ∈ config.siteNames)
    (same : ∀ site, site ∈ sites ↔ site ∈ others) :
    config.compileSites instant intent sites = config.compileSites instant intent others := by
  cases found : config.profile? intent.service with
  | none => rw [compileSites, compileSites, found]
  | some profile =>
    have configured' : ∀ site ∈ others, site ∈ config.siteNames := fun site member =>
      configured site ((same site).mpr member)
    obtain ⟨first, one, compiled⟩ := compileSites_eq_ok instant found configured
    obtain ⟨second, other, compiled'⟩ := compileSites_eq_ok instant found configured'
    rw [one, other, compiled.unique compiled' same]

variable {targets : List String} {groups : List (List String)}

theorem configured_of_mapM (resolved : targets.mapM config.resolveTarget = .ok groups) :
    ∀ site ∈ groups.flatten, site ∈ config.siteNames := by
  intro site member
  obtain ⟨group, inside, member⟩ := List.mem_flatten.mp member
  obtain ⟨target, _, same⟩ := (mem_of_mapM resolved).mp inside
  exact configured_of_resolveTarget same member

theorem compileFor_of_resolved (resolved : targets.mapM config.resolveTarget = .ok groups) :
    config.compileFor instant intent targets = config.compileSites instant intent groups.flatten := by
  rw [compileFor, resolved]
  rfl

theorem compiled_of_compileFor {compilation : Compilation}
    (same : config.compileFor instant intent targets = .ok compilation) :
    ∃ groups, targets.mapM config.resolveTarget = .ok groups ∧
      (∃ profile, config.profile? intent.service = some profile) ∧
      Compiled config instant intent groups.flatten compilation := by
  obtain ⟨groups, resolved, compiles⟩ := bind_eq_ok.mp same
  refine ⟨groups, resolved, ?_⟩
  cases found : config.profile? intent.service with
  | none =>
    rw [compileSites, found] at compiles
    cases compiles
  | some profile =>
    obtain ⟨other, done, compiled⟩ :=
      compileSites_eq_ok instant found (configured_of_mapM resolved)
    obtain rfl := Except.ok.inj (compiles.symm.trans done)
    exact ⟨⟨profile, rfl⟩, compiled⟩

theorem exists_compileFor :
    (∃ compilation, config.compileFor instant intent targets = .ok compilation) ↔
      (∃ profile, config.profile? intent.service = some profile) ∧
        ∀ target ∈ targets, ∃ sites, config.resolveTarget target = .ok sites := by
  constructor
  · rintro ⟨compilation, same⟩
    obtain ⟨groups, resolved, found, -⟩ := compiled_of_compileFor same
    exact ⟨found, exists_mapM_eq_ok.mp ⟨groups, resolved⟩⟩
  · rintro ⟨⟨profile, found⟩, resolves⟩
    obtain ⟨groups, resolved⟩ := exists_mapM_eq_ok.mpr resolves
    obtain ⟨compilation, same, -⟩ :=
      compileSites_eq_ok instant found (configured_of_mapM resolved)
    exact ⟨compilation, (compileFor_of_resolved resolved).trans same⟩

/-- The sites that a target stands for stand together for themselves: if one of them stands for all sites,
all are there. -/
theorem mem_of_resolved_again {target : String} {sites : List String}
    (once : config.resolveTarget target = .ok sites)
    (again : sites.mapM config.resolveTarget = .ok groups) (site : String) :
    site ∈ sites ↔ site ∈ groups.flatten := by
  constructor
  · intro member
    obtain ⟨group, same, inside⟩ := resolveTarget_of_configured (configured_of_resolveTarget once member)
    exact List.mem_flatten.mpr ⟨group, (mem_of_mapM again).mpr ⟨site, member, same⟩, inside⟩
  · intro member
    obtain ⟨group, inside, member⟩ := List.mem_flatten.mp member
    obtain ⟨other, listed, same⟩ := (mem_of_mapM again).mp inside
    have configured := configured_of_resolveTarget same member
    rw [resolveTarget_eq_ok, resolveTarget?] at once
    by_cases all : targetsAllSites target = true
    · rw [if_pos all] at once
      cases once
      exact configured
    · rw [if_neg all] at once
      split at once
      next known =>
        cases once
        obtain rfl := List.mem_singleton.mp listed
        rw [resolveTarget_eq_ok, resolveTarget?, if_neg all, if_pos known] at same
        cases same
        exact member
      · cases once

/-- So it is with the sites that several targets stand for. -/
theorem mem_of_all_resolved_again {sites : List String} {again : List (List String)}
    (once : targets.mapM config.resolveTarget = .ok groups) (same : ∀ site, site ∈ sites ↔ site ∈ groups.flatten)
    (twice : sites.mapM config.resolveTarget = .ok again) (site : String) :
    site ∈ sites ↔ site ∈ again.flatten := by
  constructor
  · intro member
    have configured := configured_of_mapM once site ((same site).mp member)
    obtain ⟨group, stands, inside⟩ := resolveTarget_of_configured configured
    exact List.mem_flatten.mpr ⟨group, (mem_of_mapM twice).mpr ⟨site, member, stands⟩, inside⟩
  · intro member
    obtain ⟨group, listed, inside⟩ := List.mem_flatten.mp member
    obtain ⟨other, among, stands⟩ := (mem_of_mapM twice).mp listed
    obtain ⟨first, made, held⟩ := List.mem_flatten.mp ((same other).mp among)
    obtain ⟨target, _, stood⟩ := (mem_of_mapM once).mp made
    have configured : ∀ site ∈ first, site ∈ config.siteNames := fun site member =>
      configured_of_resolveTarget stood member
    obtain ⟨closed, resolved⟩ := exists_mapM_eq_ok.mpr fun site member =>
      (resolveTarget_of_configured (configured site member)).imp fun _ both => both.1
    have inner : site ∈ first := by
      rw [mem_of_resolved_again stood resolved]
      exact List.mem_flatten.mpr ⟨group, (mem_of_mapM resolved).mpr ⟨other, held, stands⟩, inside⟩
    exact (same site).mpr (List.mem_flatten.mpr ⟨first, made, inner⟩)

/-- A compilation for configured sites has a bundle for each of them and for no other. -/
theorem Compiled.mem_keys {sites : List String} {compilation : Compilation}
    (compiled : Compiled config instant intent sites compilation)
    (found : ∃ profile, config.profile? intent.service = some profile)
    (configured : ∀ site ∈ sites, site ∈ config.siteNames) (site : String) :
    site ∈ compilation.bundles.keys ↔ site ∈ sites := by
  rw [Table.mem_keys, compiled.bundled]
  split
  next member =>
    obtain ⟨profile, found⟩ := found
    exact iff_of_true (bundle?_isSome instant found (configured site member)) member
  next absent => exact iff_of_false nofun absent

/-- Compiling an intent for its own sites is compiling it for a list of them. -/
theorem compile_eq_compileFor : config.compile instant intent =
    config.intentTargets intent >>= config.compileFor instant intent := by
  rw [compile]
  cases once : config.intentTargets intent with
  | error => rfl
  | ok sites =>
    have configured : ∀ site ∈ sites, site ∈ config.siteNames := fun site member =>
      configured_of_resolveTarget once member
    obtain ⟨groups, again⟩ := exists_mapM_eq_ok.mpr fun site member =>
      (resolveTarget_of_configured (configured site member)).imp fun _ both => both.1
    exact (compileSites_congr configured (mem_of_resolved_again once again)).trans
      (compileFor_of_resolved again).symm

/-- What an intent is compiled to, for its own sites or for those that some targets stand for. -/
def Compiles (config : Config) (instant : Instant) (intent : Intent) (compilation : Compilation) : Prop :=
  config.compile instant intent = .ok compilation ∨
    ∃ targets, config.compileFor instant intent targets = .ok compilation

theorem Compiles.compiled {compilation : Compilation} (compiles : config.Compiles instant intent compilation) :
    ∃ sites, Compiled config instant intent sites compilation := by
  obtain own | ⟨targets, listed⟩ := compiles
  · rw [compile_eq_compileFor] at own
    obtain ⟨targets, _, listed⟩ := bind_eq_ok.mp own
    obtain ⟨groups, _, _, compiled⟩ := compiled_of_compileFor listed
    exact ⟨groups.flatten, compiled⟩
  · obtain ⟨groups, _, _, compiled⟩ := compiled_of_compileFor listed
    exact ⟨groups.flatten, compiled⟩

/-- The bundle of a site rests on its own entry, on the profile of the service and on the classes. -/
theorem bundle?_congr {changed : Config} {site : String}
    (entry : changed.sites.get? site = config.sites.get? site)
    (profiles : changed.profiles = config.profiles) (qos : changed.qos = config.qos) :
    changed.bundle? instant intent site = config.bundle? instant intent site := by
  rw [bundle?, bundle?, entry, profile?, profile?, profiles, qos]

structure Independent (config : Config) (instant : Instant) (intent : Intent) : Prop where
  together : ∀ first rest, (∃ both, config.compileFor instant intent (first ++ rest) = .ok both) ↔
    (∃ one, config.compileFor instant intent first = .ok one) ∧
      ∃ other, config.compileFor instant intent rest = .ok other
  united : ∀ first rest both one other, config.compileFor instant intent (first ++ rest) = .ok both →
    config.compileFor instant intent first = .ok one → config.compileFor instant intent rest = .ok other →
    both = { one with bundles := one.bundles.union other.bundles } ∧
      ∀ site ∈ one.bundles.keys, site ∈ other.bundles.keys →
        one.bundles.get? site = other.bundles.get? site
  /-- Only the set of sites matters. -/
  resolved : ∀ first rest sites others, first.mapM config.resolveTarget = .ok sites →
    rest.mapM config.resolveTarget = .ok others → (∀ site, site ∈ sites.flatten ↔ site ∈ others.flatten) →
    config.compileFor instant intent first = config.compileFor instant intent rest
  own : config.compile instant intent = config.intentTargets intent >>= config.compileFor instant intent
  /-- Other sites, default targets and the settings of rollouts may change or go. -/
  apart : ∀ (changed : Config) targets compilation site bundle,
    changed.sites.get? site = config.sites.get? site → changed.profiles = config.profiles →
    changed.qos = config.qos → config.compileFor instant intent targets = .ok compilation →
    compilation.bundles.get? site = some bundle →
    (∃ alone, changed.compileFor instant intent [site] = .ok alone ∧
        alone.bundles.get? site = some bundle) ∧
      ∀ others other, changed.compileFor instant intent others = .ok other →
        site ∈ other.bundles.keys → other.bundles.get? site = some bundle

theorem sites_independent (config : Config) (instant : Instant) (intent : Intent) :
    Independent config instant intent where
  together first rest := by
    simp only [exists_compileFor, List.forall_mem_append]
    exact and_and_left
  united first rest both one other compiles compilesFirst compilesRest := by
    obtain ⟨groups, resolved, -, compiled⟩ := compiled_of_compileFor compiles
    obtain ⟨sites, resolvedFirst, -, compiledFirst⟩ := compiled_of_compileFor compilesFirst
    obtain ⟨others, resolvedRest, -, compiledRest⟩ := compiled_of_compileFor compilesRest
    have split : groups = sites ++ others := by
      rw [List.mapM_append, resolvedFirst, resolvedRest] at resolved
      exact (Except.ok.inj resolved).symm
    obtain rfl := split
    have bundled (site : String) := compiled.bundled site
    simp only [List.flatten_append, List.mem_append] at bundled
    have bundles : both.bundles = one.bundles.union other.bundles := by
      apply Table.ext_get?
      intro site
      rw [Table.get?_union, bundled, compiledFirst.bundled, compiledRest.bundled]
      by_cases left : site ∈ sites.flatten <;> by_cases right : site ∈ others.flatten <;> simp [left, right]
    refine ⟨?_, ?_⟩
    · rw [compiled.shaped, compiledFirst.shaped, bundles]
    · intro site left right
      obtain ⟨bundle, left⟩ := Table.mem_keys.mp left
      obtain ⟨bundle', right⟩ := Table.mem_keys.mp right
      rw [left, right, ← compiledFirst.bundle?_eq left, ← compiledRest.bundle?_eq right]
  resolved first rest sites others one other same := by
    rw [compileFor_of_resolved one, compileFor_of_resolved other]
    exact compileSites_congr (configured_of_mapM one) same
  own := compile_eq_compileFor
  apart changed targets compilation site bundle entry profiles qos compiles held := by
    obtain ⟨groups, resolved, ⟨profile, found⟩, compiled⟩ := compiled_of_compileFor compiles
    have made : changed.bundle? instant intent site = some bundle :=
      (bundle?_congr entry profiles qos).trans (compiled.bundle?_eq held)
    have others {targets : List String} {other : Compilation}
        (compiles : changed.compileFor instant intent targets = .ok other)
        (member : site ∈ other.bundles.keys) : other.bundles.get? site = some bundle := by
      obtain ⟨_, _, _, compiled⟩ := compiled_of_compileFor compiles
      obtain ⟨again, held⟩ := Table.mem_keys.mp member
      rw [held, ← compiled.bundle?_eq held, made]
    refine ⟨?_, fun targets other => others⟩
    have known : site ∈ changed.siteNames := by
      obtain ⟨profile, _, again⟩ := Option.bind_eq_some_iff.mp made
      obtain ⟨entry, listed, _⟩ := Option.bind_eq_some_iff.mp again
      exact Table.mem_keys.mpr ⟨entry, listed⟩
    have found : changed.profile? intent.service = some profile := by
      rwa [profile?, profiles]
    obtain ⟨sites, stands, inside⟩ := resolveTarget_of_configured known
    obtain ⟨alone, compiles⟩ : ∃ alone, changed.compileFor instant intent [site] = .ok alone :=
      exists_compileFor.mpr
        ⟨⟨profile, found⟩, fun target member => ⟨sites, List.mem_singleton.mp member ▸ stands⟩⟩
    refine ⟨alone, compiles, others compiles ?_⟩
    obtain ⟨groups, resolved, _, compiled⟩ := compiled_of_compileFor compiles
    have listed : site ∈ groups.flatten := List.mem_flatten.mpr
      ⟨sites, (mem_of_mapM resolved).mpr ⟨site, List.mem_singleton_self site, stands⟩, inside⟩
    refine Table.mem_keys.mpr ⟨bundle, ?_⟩
    rw [compiled.bundled, if_pos listed, made]

def bareIntent : Intent := ⟨"i1", none, none, none, none, [], .object [("intentId", .text "i1")]⟩

theorem two_sites_are_all :
    Config.compileFor {} ⟨0, 0⟩ bareIntent ["edge2", "edge1", "edge2"] =
      Config.compileFor {} ⟨0, 0⟩ bareIntent ["all"] := by
  apply (sites_independent {} ⟨0, 0⟩ bareIntent).resolved _ _
    [["edge2"], ["edge1"], ["edge2"]] [["edge1", "edge2"]]
  · rfl
  · rfl
  · simp [or_comm]

end IntentRollout.Config
