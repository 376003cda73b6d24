import IntentRollout.Proofs.ClearedScopes
import IntentRollout.Proofs.KeptTrees

/-! Going back to a snapshot. However publications ended in between, a reset that succeeds brings back the head,
the index and every file; what it does not find under version control it takes out of the scopes that
were written to. A second reset finds nothing left to do. -/

namespace IntentRollout

namespace Repository

variable {repository : Repository} {volume : Volume} {number found : Nat} {place : List String} {bytes : ByteArray}

private theorem toList_revision (number : Nat) : (revision number).toList = 'r' :: Nat.toDigits 10 number := by
  simp [revision]

/-- The name of a commit stands for no other commit. -/
theorem eq_of_resolve?_revision (resolved : repository.resolve? (revision number) = some found) :
    found = number := by
  rw [resolve?, toList_revision] at resolved
  have same : revision found = revision number := by simpa using List.find?_some resolved
  have digits := congrArg String.toList same
  rw [toList_revision, toList_revision, List.cons.injEq] at digits
  have read := congrArg (Nat.ofDigitChars 10 · 0) digits.2
  rwa [Nat.ofDigitChars_ten_toDigits, Nat.ofDigitChars_ten_toDigits] at read

/-- A work tree that stands well and is clean at a commit on record. -/
structure CleanAt (repository : Repository) (volume : Volume) (number : Nat) : Prop where
  grounded : volume.Grounded
  head : repository.head = some number
  recorded : number < repository.commits.length
  inTop : ∀ place ∈ repository.index.keys ++ repository.headTree.keys, repository.top <+: place
  clean : repository.isClean volume repository.top = true

private theorem within_eq_self {scope : List String} {tree : FileTree} (inside : ∀ place ∈ tree.keys, scope <+: place) :
    within scope tree = tree := by
  refine Table.ext_get? fun place => ?_
  rw [get?_within]
  split
  · rfl
  next outside => exact (Table.get?_eq_none.mpr fun member => outside (inside place member)).symm

namespace CleanAt

private theorem index_eq (clean : CleanAt repository volume number) : repository.index = repository.headTree := by
  have same := clean.clean
  simp only [isClean, Bool.and_eq_true, decide_eq_true_eq] at same
  have index := within_eq_self fun place member => clean.inTop place (List.mem_append_left _ member)
  have headTree := within_eq_self fun place member => clean.inTop place (List.mem_append_right _ member)
  rw [← index, same.1, headTree]

theorem get?_index (clean : CleanAt repository volume number) :
    repository.index.get? place = some bytes ↔
      (repository.top <+: place ∧ volume.file? place = some bytes) ∧ repository.isEligible volume place = true := by
  have same := clean.clean
  simp only [isClean, Bool.and_eq_true, decide_eq_true_eq] at same
  have index := within_eq_self fun place member => clean.inTop place (List.mem_append_left _ member)
  rw [← index, ← same.2, Table.get?_filter, Option.filter_eq_some_iff, get?_within,
    Option.ite_none_right_eq_some, Volume.get?_files clean.grounded]
  exact and_congr_left fun _ => and_iff_right_of_imp And.left

private theorem get?_index_of_clear {scope : List String} (clean : CleanAt repository volume number)
    (inTop : repository.top <+: scope) (clear : Clear repository scope volume) (inside : scope <+: place) :
    volume.file? place = repository.index.get? place := by
  refine Option.ext fun bytes => ?_
  rw [clean.get?_index]
  constructor
  · intro held
    exact ⟨⟨inTop.trans inside, held⟩, by simp [isEligible, clear place bytes inside held]⟩
  · exact fun listed => listed.1.2

private theorem treeOf_eq (clean : CleanAt repository volume number) : repository.treeOf number = repository.index := by
  rw [clean.index_eq, headTree, clean.head]

end CleanAt

end Repository

namespace DeliveryTree

open Delivering Repository

variable {delivery : DeliveryTree} {sites : List String} {origin : Origin} {site : String}
  {checkout before after : Checkout} {repository : Repository}

structure Back (origin : Origin) (repository : Repository) : Prop where
  top : repository.top = origin.top
  head : repository.head = some origin.number
  treeOf : repository.treeOf origin.number = origin.tree
  index : repository.index = origin.tree

/-- A tree that is back at its origin, apart from files that never came under version control. -/
structure Returned (delivery : DeliveryTree) (sites : List String) (origin : Origin) (checkout : Checkout) :
    Prop extends Kept delivery sites origin checkout where
  back : ∃ repository, checkout.repository = some repository ∧ Back origin repository
  restored : ∀ place bytes, origin.tree.get? place = some bytes → checkout.volume.file? place = some bytes

theorem Back.headTree (back : Back origin repository) : repository.headTree = origin.tree := by
  rw [Repository.headTree, back.head]
  exact back.treeOf

theorem Descends.treeOf {touched : List String → Prop} (descends : Descends origin touched repository) :
    repository.treeOf origin.number = origin.tree := by
  obtain ⟨commit, there, same⟩ := descends.recorded
  rw [Repository.treeOf, there]
  exact same

theorem Returned.intact (returned : Returned delivery sites origin checkout)
    (there : checkout.repository = some repository) : Intact repository checkout.volume := by
  obtain ⟨_, same, back⟩ := returned.back
  obtain rfl := Option.some_inj.mp (there.symm.trans same)
  refine ⟨returned.grounded, ?_⟩
  rw [back.index]
  exact returned.restored

private theorem Back.reset_eq_self (back : Back origin repository) {volume : Volume}
    (intact : Intact repository volume) :
    repository.reset volume origin.number = (repository, volume) := by
  have still : repository.restore volume origin.tree = volume := by
    apply restore_eq_self
    · intro place known
      rwa [back.headTree, back.index, or_self] at known
    · rw [← back.index]
      exact intact.staged
  rw [Repository.reset, back.treeOf, still, ← back.head, ← back.index]

private theorem returned_of_reset
    (sound : ∀ place bytes, origin.tree.get? place = some bytes → origin.files place = some bytes)
    (kept : Kept delivery sites origin checkout) (there : checkout.repository = some repository) :
    Returned delivery sites origin { checkout with
      repository := some (repository.reset checkout.volume origin.number).1
      volume := (repository.reset checkout.volume origin.number).2 } := by
  obtain ⟨_, same, descends⟩ := kept.descends
  obtain rfl := Option.some_inj.mp (there.symm.trans same)
  have holds : Volume.Holds checkout.volume.working _ (repository.restore checkout.volume origin.tree) :=
    holds_restore ⟨kept.grounded, rfl, fun _ => rfl⟩ kept.standing
  have back : Back origin (repository.reset checkout.volume origin.number).1 :=
    ⟨descends.top, rfl, descends.treeOf, descends.treeOf⟩
  rw [Repository.reset, descends.treeOf] at back ⊢
  have restored (place : List String) (bytes : ByteArray) (wanted : origin.tree.get? place = some bytes) :
      (repository.restore checkout.volume origin.tree).file? place = some bytes := by
    rw [holds.files, wanted]
    rfl
  refine ⟨⟨holds.grounded, holds.working.trans kept.working, kept.noted, ⟨_, rfl, back.top, descends.recorded, ?_, ?_⟩,
    ?_, ?_⟩, ⟨_, rfl, back⟩, restored⟩
  · exact fun _ _ => rfl
  · intro place _
    rw [back.headTree]
  · intro place free
    change (repository.restore checkout.volume origin.tree).file? place = _
    cases wanted : origin.tree.get? place with
    | some bytes => rw [restored place bytes wanted, sound place bytes wanted]
    | none =>
      have unknown : ¬ (place ∈ repository.headTree.keys ∨ place ∈ repository.index.keys) := by
        rw [not_or, ← Table.get?_eq_none, ← Table.get?_eq_none]
        exact ⟨(descends.headTree place free).trans wanted, (descends.index place free).trans wanted⟩
      rw [holds.files, wanted, Option.none_or, if_neg unknown, kept.files place free]
  · intro place member
    obtain ⟨bytes, wanted⟩ := Table.mem_keys.mp member
    exact ⟨bytes, restored place bytes wanted⟩

private theorem returned_of_resetHard
    (sound : ∀ place bytes, origin.tree.get? place = some bytes → origin.files place = some bytes)
    (kept : Kept delivery sites origin before)
    (done : (delivery.resetHard (Repository.revision origin.number)).on before = (.ok (), after)) :
    Returned delivery sites origin after ∧ origin.top <+: delivery.base origin.working := by
  obtain ⟨error, mishaps, failed⟩ | ⟨repository, base, value, repository', volume, mishaps, found, acted, same⟩ :=
    delivery.on_command _ _ before
  · cases failed.symm.trans done
  · cases same.symm.trans done
    split at acted
    next number resolved =>
      obtain rfl := Repository.eq_of_resolve?_revision resolved
      cases acted
      obtain ⟨there, inside, _⟩ := repository?_eq_ok found
      obtain ⟨_, also, descends⟩ := kept.descends
      obtain rfl := Option.some_inj.mp (there.symm.trans also)
      rw [repository?_base found, kept.working, descends.top] at inside
      have returned := returned_of_reset sound (kept.careless mishaps) there
      exact ⟨returned, inside⟩
    · cases acted

namespace Returned

theorem careless (returned : Returned delivery sites origin checkout) (mishaps : List Bool) :
    Returned delivery sites origin { checkout with mishaps } :=
  ⟨returned.toKept.careless mishaps, returned.back, returned.restored⟩

theorem clean (returned : Returned delivery sites origin checkout) (there : checkout.repository = some repository)
    (noted : delivery.scope site ∈ checkout.touched.keys) :
    Returned delivery sites origin { checkout with
      volume := repository.clean checkout.volume (delivery.sitePlace origin.working site) } := by
  have holds : Volume.Holds origin.working _
      (repository.clean checkout.volume (delivery.sitePlace origin.working site)) :=
    holds_clean ⟨returned.grounded, returned.working, fun _ => rfl⟩
  have intact := (returned.intact there).clean (delivery.sitePlace origin.working site)
  obtain ⟨_, same, back⟩ := returned.back
  obtain rfl := Option.some_inj.mp (there.symm.trans same)
  have restored := intact.staged
  rw [back.index] at restored
  refine ⟨⟨holds.grounded, holds.working, returned.noted, returned.descends, ?_, ?_⟩, ⟨_, there, back⟩, restored⟩
  · intro place free
    refine Eq.trans ?_ (returned.files place free)
    refine Volume.file?_congr (Volume.entry?_congr (get?_clean returned.grounded fun inside => ?_))
    exact free ⟨site, noted, inside⟩
  · intro place member
    obtain ⟨bytes, wanted⟩ := Table.mem_keys.mp member
    exact ⟨bytes, restored place bytes wanted⟩

private theorem clean_all {scopes : List (List String)} (returned : Returned delivery sites origin checkout)
    (there : checkout.repository = some repository)
    (each : ∀ scope ∈ scopes, ∃ site, delivery.scope site ∈ checkout.touched.keys ∧
      scope = delivery.sitePlace origin.working site) :
    Returned delivery sites origin { checkout with
      volume := scopes.foldl (repository.clean ·) checkout.volume } := by
  induction scopes generalizing checkout with
  | nil => exact returned
  | cons scope rest ih =>
    rw [List.forall_mem_cons] at each
    obtain ⟨⟨site, noted, rfl⟩, each⟩ := each
    exact ih (returned.clean there noted) there each

end Returned

def cleanTouched (delivery : DeliveryTree) : Delivering Unit := do
  let touched := (← get).touched.keys
  if touched.isEmpty then pure () else delivery.clean touched

private theorem reset_eq (delivery : DeliveryTree) (name : String) :
    delivery.reset name = delivery.resetHard name >>= fun _ => delivery.cleanTouched :=
  rfl

private theorem on_cleanTouched (delivery : DeliveryTree) (checkout : Checkout) : delivery.cleanTouched.on checkout =
    if checkout.touched.keys.isEmpty then (.ok (), checkout)
    else (delivery.clean checkout.touched.keys).on checkout := by
  rw [cleanTouched, on_get_bind]
  dsimp only
  split <;> rfl

private theorem scope_injective {first second : String} (same : delivery.scope first = delivery.scope second) :
    first = second := by
  have characters := congrArg String.toList same
  simp only [scope, String.toList_append, List.append_cancel_right_eq] at characters
  exact String.toList_injective characters

section Scopes

variable (plain : ∀ site ∈ sites, Path.Plain site) (inner : Path.Plain delivery.siteDirectory)

include plain inner

private theorem mem_scopes (kept : Kept delivery sites origin checkout) {scopes : List (List String)}
    (found : checkout.touched.keys.mapM (scopePlace repository (delivery.base checkout.volume.working)) = .ok scopes)
    (scope : List String) :
    scope ∈ scopes ↔ ∃ site ∈ sites, delivery.scope site ∈ checkout.touched.keys ∧
      scope = delivery.sitePlace origin.working site := by
  have placed {site : String} {place : List String} (listed : site ∈ sites)
      (led : scopePlace repository (delivery.base checkout.volume.working) (delivery.scope site) = .ok place) :
      place = delivery.sitePlace origin.working site := by
    rw [scopePlace_eq_ok (plain site listed) inner led, kept.working]
    rfl
  rw [mem_of_mapM found]
  constructor
  · rintro ⟨path, noted, led⟩
    obtain ⟨site, listed, rfl⟩ := kept.noted path noted
    exact ⟨site, listed, noted, placed listed led⟩
  · rintro ⟨site, listed, noted, rfl⟩
    obtain ⟨place, led⟩ := exists_mapM_eq_ok.mp ⟨scopes, found⟩ _ noted
    exact ⟨_, noted, placed listed led ▸ led⟩

/-- Either nothing is cleaned, or all scopes that were written to are. -/
theorem on_clean (kept : Kept delivery sites origin checkout) :
    (∃ error mishaps, (delivery.clean checkout.touched.keys).on checkout = (.error error, { checkout with mishaps })) ∨
      ∃ (repository : Repository) (scopes : List (List String)) (mishaps : List Bool),
        checkout.repository = some repository ∧
        (∀ scope, scope ∈ scopes ↔ ∃ site ∈ sites, delivery.scope site ∈ checkout.touched.keys ∧
          scope = delivery.sitePlace origin.working site) ∧
        (delivery.clean checkout.touched.keys).on checkout =
          (.ok (), { checkout with volume := scopes.foldl (repository.clean ·) checkout.volume, mishaps }) := by
  obtain ⟨error, mishaps, failed⟩ | ⟨repository, base, value, repository', volume, mishaps, found, acted, same⟩ :=
    delivery.on_command (["clean", "-fdq", "--"] ++ checkout.touched.keys) (fun repository root volume => do
      let places ← checkout.touched.keys.mapM (scopePlace repository root)
      .ok ((), repository, places.foldl (repository.clean ·) volume)) checkout
  · exact .inl ⟨error, mishaps, failed⟩
  · obtain ⟨scopes, placed, acted⟩ := bind_eq_ok.mp acted
    cases acted
    obtain ⟨there, _⟩ := repository?_eq_ok found
    rw [repository?_base found] at placed
    refine .inr ⟨repository, scopes, mishaps, there, mem_scopes plain inner kept placed, same.trans ?_⟩
    rw [← there]

private theorem keeps_clean (returned : Returned delivery sites origin checkout) :
    Returned delivery sites origin ((delivery.clean checkout.touched.keys).on checkout).2 := by
  obtain ⟨error, mishaps, failed⟩ | ⟨repository, scopes, mishaps, there, listed, done⟩ :=
    on_clean plain inner returned.toKept
  · rw [failed]
    exact returned.careless mishaps
  · rw [done]
    refine (returned.clean_all there fun scope member => ?_).careless mishaps
    obtain ⟨site, _, noted, same⟩ := (listed scope).mp member
    exact ⟨site, noted, same⟩

/-- A reset keeps a tree from which one can go back, also one that fails half way. -/
theorem keeps_reset (sound : ∀ place bytes, origin.tree.get? place = some bytes → origin.files place = some bytes) :
    Keeps (Kept delivery sites origin) (delivery.reset (revision origin.number)) := by
  have hard : Keeps (Kept delivery sites origin) (delivery.resetHard (revision origin.number)) := by
    intro checkout kept
    cases done : (delivery.resetHard (revision origin.number)).on checkout with
    | mk result changed =>
      cases result with
      | ok _ => exact (returned_of_resetHard sound kept done).1.toKept
      | error error =>
        obtain ⟨_, mishaps, failed⟩ | ⟨_, _, _, _, _, _, _, _, same⟩ := delivery.on_command _ _ checkout
        · cases failed.symm.trans done
          exact kept.careless mishaps
        · cases same.symm.trans done
  rw [reset_eq]
  refine hard.strengthen (fun _ _ _ kept done => (returned_of_resetHard sound kept done).1) (fun _ => ?_)
    fun _ returned => returned.toKept
  intro checkout returned
  rw [on_cleanTouched]
  split
  · exact returned
  · exact keeps_clean plain inner returned

end Scopes

def Uncovered (delivery : DeliveryTree) (sites : List String) (checkout : Checkout) : Prop :=
  ∀ site ∈ sites, ∀ repository ∈ checkout.repository,
    Clear repository (delivery.sitePlace checkout.volume.working site) checkout.volume

instance (delivery : DeliveryTree) (sites : List String) (checkout : Checkout) :
    Decidable (delivery.Uncovered sites checkout) :=
  inferInstanceAs (Decidable (∀ site ∈ sites, ∀ repository ∈ checkout.repository,
    Clear repository (delivery.sitePlace checkout.volume.working site) checkout.volume))

/-- A tree that is back at its origin, with nothing left in the scopes that were written to. -/
structure Restored (delivery : DeliveryTree) (sites : List String) (origin : Origin) (checkout : Checkout) :
    Prop extends Returned delivery sites origin checkout where
  settled : ∀ repository, checkout.repository = some repository → ∀ site ∈ sites,
    delivery.scope site ∈ checkout.touched.keys →
      Settled repository (delivery.sitePlace origin.working site) checkout.volume

private theorem sitePlace_beside (delivery : DeliveryTree) (working : List String) (first second : String) :
    delivery.sitePlace working first = delivery.sitePlace working second ∨
      Beside (delivery.sitePlace working first) (delivery.sitePlace working second) := by
  by_cases same : first = second
  · exact .inl (same ▸ rfl)
  · refine .inr ⟨by simp [sitePlace], ?_⟩
    simp [sitePlace, same]

section Restoration

variable (plain : ∀ site ∈ sites, Path.Plain site) (inner : Path.Plain delivery.siteDirectory)
  (sound : ∀ place bytes, origin.tree.get? place = some bytes → origin.files place = some bytes)

include plain inner

/-- After going back, all scopes that were written to are cleaned. -/
theorem cleaned_of_reset (returned : Returned delivery sites origin before)
    (done : delivery.cleanTouched.on before = (.ok (), after)) :
    ∃ (repository : Repository) (scopes : List (List String)) (mishaps : List Bool),
      before.repository = some repository ∧
      (∀ scope, scope ∈ scopes ↔ ∃ site ∈ sites, delivery.scope site ∈ before.touched.keys ∧
        scope = delivery.sitePlace origin.working site) ∧
      after = { before with volume := scopes.foldl (repository.clean ·) before.volume, mishaps } := by
  rw [on_cleanTouched] at done
  split at done
  next none =>
    cases done
    obtain ⟨repository, there, _⟩ := returned.back
    refine ⟨repository, [], before.mishaps, there, ?_, rfl⟩
    simp [List.isEmpty_iff.mp none]
  · obtain ⟨error, mishaps, failed⟩ | ⟨repository, scopes, mishaps, there, listed, same⟩ :=
      on_clean plain inner returned.toKept
    · cases failed.symm.trans done
    · cases same.symm.trans done
      exact ⟨repository, scopes, mishaps, there, listed, rfl⟩

include sound

private theorem restored_of_reset (kept : Kept delivery sites origin before)
    (uncovered : ∀ hard, (delivery.resetHard (revision origin.number)).on before = (.ok (), hard) →
      delivery.Uncovered sites hard)
    (done : (delivery.reset (revision origin.number)).on before = (.ok (), after)) :
    Restored delivery sites origin after ∧ origin.top <+: delivery.base origin.working := by
  obtain ⟨_, hard, went, rest⟩ := on_bind_eq_ok.mp done
  obtain ⟨returned, inTop⟩ := returned_of_resetHard sound kept went
  obtain ⟨repository, scopes, mishaps, there, listed, rfl⟩ := cleaned_of_reset plain inner returned rest
  have cleaned := returned.clean_all there fun scope member =>
    have ⟨site, _, noted, same⟩ := (listed scope).mp member
    ⟨site, noted, same⟩
  refine ⟨⟨cleaned.careless mishaps, ?_⟩, inTop⟩
  intro _ same site known noted
  obtain rfl := Option.some_inj.mp (there.symm.trans same)
  have clear := uncovered hard went site known repository there
  rw [returned.working] at clear
  obtain ⟨_, also, back⟩ := returned.back
  obtain rfl := Option.some_inj.mp (there.symm.trans also)
  refine (returned.intact there).settled_of_mem ?_ clear ((listed _).mpr ⟨site, known, noted, rfl⟩) ?_
  · rw [back.top]
    exact inTop.trans (List.prefix_append _ _)
  · intro scope member
    obtain ⟨other, _, _, rfl⟩ := (listed scope).mp member
    exact sitePlace_beside delivery origin.working other site

omit sound in
/-- A tree that is restored stays as it is when it goes back once more. -/
theorem Restored.keeps_reset (restored : Restored delivery sites origin after) :
    Keeps (fun checkout => ∃ mishaps, checkout = { after with mishaps })
      (delivery.reset (revision origin.number)) := by
  obtain ⟨repository, there, back⟩ := restored.back
  have intact := restored.intact there
  have careless (checkout : Checkout) (mishaps : List Bool)
      (same : ∃ mishaps, checkout = { after with mishaps }) :
      ∃ mishaps', { checkout with mishaps } = { after with mishaps := mishaps' } := by
    obtain ⟨_, rfl⟩ := same
    exact ⟨mishaps, rfl⟩
  rw [reset_eq]
  refine Keeps.bind (keeps_command careless ?_) fun _ => ?_
  · rintro _ _ value repository' volume ⟨mishaps, rfl⟩ same acted
    obtain rfl := Option.some_inj.mp (there.symm.trans same)
    split at acted
    next number resolved =>
      obtain rfl := eq_of_resolve?_revision resolved
      rw [back.reset_eq_self intact] at acted
      cases acted
      exact ⟨mishaps, by rw [← there]⟩
    · cases acted
  · rintro _ ⟨mishaps, rfl⟩
    rw [on_cleanTouched]
    split
    · exact ⟨mishaps, rfl⟩
    · obtain ⟨error, mishaps', failed⟩ | ⟨repository', scopes, mishaps', there', listed, same⟩ :=
        on_clean plain inner (restored.toKept.careless mishaps)
      · rw [failed]
        exact ⟨mishaps', rfl⟩
      · rw [same]
        obtain rfl := Option.some_inj.mp (there.symm.trans there')
        refine ⟨mishaps', ?_⟩
        have still : scopes.foldl (repository.clean ·) after.volume = after.volume := by
          refine intact.clean_all_of_settled fun scope member => ?_
          obtain ⟨site, known, noted, rfl⟩ := (listed scope).mp member
          exact restored.settled repository there site known noted
        dsimp only
        rw [still]

end Restoration

/-- What is asked of a delivery tree between a snapshot and the way back to it. -/
inductive Call where
  | publish (site : String) (files : List RenderedFile) (message : String)
  | reset

namespace Call

def Fits (sites : List String) : Call → Prop
  | publish site files _ => site ∈ sites ∧ ∀ file ∈ files, Path.Plain file.name
  | reset => True

def on (delivery : DeliveryTree) (snapshot : String) (checkout : Checkout) : Call → Checkout
  | publish site files message => ((delivery.publish site files message).on checkout).2
  | reset => ((delivery.reset snapshot).on checkout).2

def onAll (delivery : DeliveryTree) (snapshot : String) (calls : List Call) (checkout : Checkout) : Checkout :=
  calls.foldl (Call.on delivery snapshot) checkout

variable {call : Call} {calls : List Call} (plain : ∀ site ∈ sites, Path.Plain site)
  (inner : Path.Plain delivery.siteDirectory)
  (sound : ∀ place bytes, origin.tree.get? place = some bytes → origin.files place = some bytes)

include plain inner sound

theorem keeps (fits : call.Fits sites) (kept : Kept delivery sites origin checkout) :
    Kept delivery sites origin (call.on delivery (revision origin.number) checkout) := by
  cases call with
  | publish site files message =>
    exact keeps_publish (plain site fits.1) inner fits.1 fits.2 message checkout kept
  | reset => exact keeps_reset plain inner sound checkout kept

private theorem keeps_all (fits : ∀ call ∈ calls, call.Fits sites) (kept : Kept delivery sites origin checkout) :
    Kept delivery sites origin (onAll delivery (revision origin.number) calls checkout) := by
  induction calls generalizing checkout with
  | nil => exact kept
  | cons call rest ih =>
    rw [List.forall_mem_cons] at fits
    exact ih fits.2 (keeps plain inner sound fits.1 kept)

end Call

/-- What a snapshot of a clean work tree can be brought back to. -/
def originOf (checkout : Checkout) (repository : Repository) (number : Nat) : Origin where
  working := checkout.volume.working
  top := repository.top
  number
  tree := repository.index
  files := checkout.volume.file?

variable {number : Nat} {name : String} {snapshot start : Checkout}

private theorem sound_of_clean (clean : CleanAt repository snapshot.volume number) (place : List String)
    (bytes : ByteArray)
    (listed : repository.index.get? place = some bytes) : snapshot.volume.file? place = some bytes :=
  (clean.get?_index.mp listed).1.2

private theorem head_of_snapshot (clean : CleanAt repository snapshot.volume number)
    (there : snapshot.repository = some repository) (taken : delivery.head.on snapshot = (.ok name, start)) :
    name = revision number ∧ ∃ mishaps, start = { snapshot with mishaps } := by
  obtain ⟨_, _, failed⟩ | ⟨repository, _, value, repository', volume, mishaps, found, acted, same⟩ :=
    delivery.on_command _ _ snapshot
  · cases failed.symm.trans taken
  · cases same.symm.trans taken
    obtain ⟨also, _⟩ := repository?_eq_ok found
    obtain rfl := Option.some_inj.mp (there.symm.trans also)
    rw [clean.head] at acted
    cases acted
    exact ⟨rfl, mishaps, by rw [← there]⟩

private theorem kept_of_clean (clean : CleanAt repository snapshot.volume number)
    (there : snapshot.repository = some repository)
    (noted : ∀ scope ∈ snapshot.touched.keys, ∃ site ∈ sites, scope = delivery.scope site) :
    Kept delivery sites (originOf snapshot repository number) snapshot := by
  obtain ⟨commit, recorded⟩ : ∃ commit, repository.commits[number]? = some commit :=
    ⟨_, List.getElem?_eq_getElem clean.recorded⟩
  have treeOf := clean.treeOf_eq
  rw [Repository.treeOf, recorded] at treeOf
  refine ⟨clean.grounded, rfl, noted, ⟨repository, there, rfl, ⟨commit, recorded, treeOf⟩, ?_, ?_⟩, ?_, ?_⟩
  · exact fun _ _ => rfl
  · intro place _
    rw [← clean.index_eq]
    rfl
  · exact fun _ _ => rfl
  · intro place member
    obtain ⟨bytes, listed⟩ := Table.mem_keys.mp member
    exact ⟨bytes, sound_of_clean clean place bytes listed⟩

/-- In a scope that was written to there is what is staged, which is what was there at the snapshot. -/
theorem Restored.file?_eq (restored : Restored delivery sites (originOf snapshot repository number) after)
    (clean : CleanAt repository snapshot.volume number) (there : snapshot.repository = some repository)
    (inTop : repository.top <+: delivery.base snapshot.volume.working)
    (uncovered : delivery.Uncovered sites snapshot) (place : List String) :
    after.volume.file? place = snapshot.volume.file? place := by
  by_cases touched : delivery.Touched snapshot.volume.working after.touched place
  · obtain ⟨site, noted, inside⟩ := touched
    obtain ⟨other, known, same⟩ := restored.noted _ noted
    obtain rfl := scope_injective same
    obtain ⟨repository', found, back⟩ := restored.back
    have settled := restored.settled repository' found site known noted
    rw [settled.files place inside, back.index]
    symm
    exact clean.get?_index_of_clear (inTop.trans (List.prefix_append _ _))
      (uncovered site known repository there) inside
  · exact restored.files place touched

/-- Going back to a snapshot of a clean work tree brings back head, index and all files, whatever was published
since, wherever that stopped, and however often going back was tried; going back again changes nothing. Files in
the directories of the sites must not be ignored, neither at first nor once the commit is checked out again. -/
theorem reset_restores {calls : List Call} (plain : ∀ site ∈ sites, Path.Plain site)
    (inner : Path.Plain delivery.siteDirectory) (there : snapshot.repository = some repository)
    (clean : CleanAt repository snapshot.volume number)
    (noted : ∀ scope ∈ snapshot.touched.keys, ∃ site ∈ sites, scope = delivery.scope site)
    (fits : ∀ call ∈ calls, call.Fits sites) (taken : delivery.head.on snapshot = (.ok name, start))
    (uncovered : delivery.Uncovered sites snapshot)
    (uncovered' : ∀ hard, (delivery.resetHard name).on (Call.onAll delivery name calls start) = (.ok (), hard) →
      delivery.Uncovered sites hard)
    (done : (delivery.reset name).on (Call.onAll delivery name calls start) = (.ok (), after)) :
    (∃ repository', after.repository = some repository' ∧ repository'.head = repository.head ∧
      repository'.headTree = repository.headTree ∧ repository'.index = repository.index) ∧
    (∀ place, after.volume.file? place = snapshot.volume.file? place) ∧
    ∃ mishaps, ((delivery.reset name).on after).2 = { after with mishaps } := by
  obtain ⟨rfl, mishaps, rfl⟩ := head_of_snapshot clean there taken
  have kept := (kept_of_clean clean there noted).careless mishaps
  have sound := sound_of_clean clean
  have ended := Call.keeps_all plain inner sound fits kept
  obtain ⟨restored, inTop⟩ := restored_of_reset plain inner sound ended uncovered' done
  obtain ⟨repository', found, back⟩ := restored.back
  refine ⟨⟨repository', found, ?_, ?_, back.index⟩, ?_, ?_⟩
  · rw [back.head, clean.head]
    rfl
  · rw [back.headTree, ← clean.index_eq]
    rfl
  · exact restored.file?_eq clean there inTop uncovered
  · exact restored.keeps_reset plain inner after ⟨after.mishaps, rfl⟩

def twoSites : DeliveryTree where
  root := "/tree"
  siteDirectory := "deploy"
  author := "operator"

/-- A clean tree in which the tenth step to come fails, and the one after it. -/
def unlucky : Checkout :=
  { Checkout.ofSites {} "/tree" "operator" "start" ["edge1", "edge2"] with
    mishaps := List.replicate 9 false ++ [true, true] }

/-- The second publication is cut off before anything is staged, and so is going back for the first time. -/
def cutOffCalls : List Call :=
  [.publish "edge1" [⟨"a.yaml", .configMap, "a: 1"⟩] "first",
    .publish "edge2" [⟨"a.yaml", .configMap, "a: 2"⟩] "second", .reset]

def cutOff : Checkout := Call.onAll twoSites "r0" cutOffCalls (twoSites.head.on unlucky).2

private theorem unlucky_versioned : unlucky.repository.isSome = true := by decide +kernel

theorem cut_off_publication_undone :
    cutOff.volume.file? ["tree", "edge1", "deploy", "a.yaml"] = some "a: 1".toUTF8 ∧
      cutOff.volume.file? ["tree", "edge2", "deploy", "a.yaml"] = some "a: 2".toUTF8 ∧
      ((twoSites.reset "r0").on cutOff).1.toOption = some () ∧
      ∀ place, ((twoSites.reset "r0").on cutOff).2.volume.file? place = unlucky.volume.file? place := by
  have plain : ∀ site ∈ ["edge1", "edge2"], Path.Plain site := by decide +kernel
  have inner : Path.Plain twoSites.siteDirectory := by decide +kernel
  have clean : CleanAt (unlucky.repository.get unlucky_versioned) unlucky.volume 0 :=
    ⟨by decide +kernel, by decide +kernel, by decide +kernel, by decide +kernel, by decide +kernel⟩
  have noted : ∀ scope ∈ unlucky.touched.keys, ∃ site ∈ ["edge1", "edge2"], scope = twoSites.scope site := by
    decide +kernel
  have fits : ∀ call ∈ cutOffCalls, call.Fits ["edge1", "edge2"] := by
    rw [cutOffCalls, List.forall_mem_cons, List.forall_mem_cons, List.forall_mem_singleton]
    refine ⟨⟨?_, ?_⟩, ⟨?_, ?_⟩, trivial⟩
    · decide +kernel
    · decide +kernel
    · decide +kernel
    · decide +kernel
  have uncovered : twoSites.Uncovered ["edge1", "edge2"] unlucky := by decide +kernel
  have started : (twoSites.head.on unlucky).1.toOption = some "r0" := by decide +kernel
  have hard (checkout : Checkout) (went : (twoSites.resetHard "r0").on cutOff = (.ok (), checkout)) :
      twoSites.Uncovered ["edge1", "edge2"] checkout := by
    have same : checkout = ((twoSites.resetHard "r0").on cutOff).2 := by rw [went]
    rw [same]
    decide +kernel
  have ended : ((twoSites.reset "r0").on cutOff).1.toOption = some () := by decide +kernel
  have done : (twoSites.reset "r0").on cutOff = (.ok (), ((twoSites.reset "r0").on cutOff).2) := on_eq_ok ended
  have restored := reset_restores plain inner (Option.some_get unlucky_versioned).symm clean noted fits
    (on_eq_ok started) uncovered hard done
  refine ⟨?_, ?_, ended, ?_⟩
  · decide +kernel
  · decide +kernel
  · obtain ⟨_, files, _⟩ := restored
    exact files

end DeliveryTree

end IntentRollout
