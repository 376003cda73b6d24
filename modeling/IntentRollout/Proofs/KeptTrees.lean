import IntentRollout.Proofs.DeliverySteps

/-! Delivery trees from which one can go back. Whatever is published, the commit to go back to stays on record,
and outside the scopes that were written to nothing changes; inside them every file of that commit is
still a file. Each step of a publication keeps this, so a publication that stops anywhere does. -/

namespace IntentRollout

theorem Volume.follow_eq_walk {volume : Volume} {place target : List String} {names : List String}
    (led : volume.follow place names = .ok target) : target = DeliveryTree.walk place names := by
  induction names generalizing place with
  | nil =>
    cases led
    rfl
  | cons name rest ih =>
    rw [Volume.follow] at led
    split at led
    · cases led
    · cases led
    · split at led
      next up =>
        rw [ih led, DeliveryTree.walk, DeliveryTree.walk, List.foldl_cons, if_pos up]
      next down =>
        split at led
        · cases led
        · rw [ih led, DeliveryTree.walk, DeliveryTree.walk, List.foldl_cons, if_neg down]

namespace DeliveryTree

def base (tree : DeliveryTree) (working : List String) : List String :=
  walk (if Path.isAbsolute tree.root then [] else working) (Path.parts tree.root)

def sitePlace (tree : DeliveryTree) (working : List String) (site : String) : List String :=
  tree.base working ++ [site, tree.siteDirectory]

/-- What a tree can go back to: a commit and the files that there were beside it. -/
structure Origin where
  working : List String
  top : List String
  number : Nat
  tree : FileTree
  files : List String → Option ByteArray

def Touched (delivery : DeliveryTree) (working : List String) (touched : Table String Unit)
    (place : List String) : Prop :=
  ∃ site, delivery.scope site ∈ touched.keys ∧ delivery.sitePlace working site <+: place

/-- A repository that still has a commit and differs from it in some places only. -/
structure Descends (origin : Origin) (touched : List String → Prop) (repository : Repository) : Prop where
  top : repository.top = origin.top
  recorded : ∃ commit, repository.commits[origin.number]? = some commit ∧ commit.tree = origin.tree
  index : ∀ place, ¬ touched place → repository.index.get? place = origin.tree.get? place
  headTree : ∀ place, ¬ touched place → repository.headTree.get? place = origin.tree.get? place

structure Kept (delivery : DeliveryTree) (sites : List String) (origin : Origin) (checkout : Checkout) :
    Prop where
  grounded : checkout.volume.Grounded
  working : checkout.volume.working = origin.working
  noted : ∀ scope ∈ checkout.touched.keys, ∃ site ∈ sites, scope = delivery.scope site
  descends : ∃ repository, checkout.repository = some repository ∧
    Descends origin (delivery.Touched origin.working checkout.touched) repository
  files : ∀ place, ¬ delivery.Touched origin.working checkout.touched place →
    checkout.volume.file? place = origin.files place
  standing : ∀ place ∈ origin.tree.keys, ∃ bytes, checkout.volume.file? place = some bytes

structure Publishing (delivery : DeliveryTree) (sites : List String) (origin : Origin) (site : String)
    (checkout : Checkout) : Prop extends Kept delivery sites origin checkout where
  begun : delivery.scope site ∈ checkout.touched.keys
  started : checkout.volume.entry? (checkout.volume.start delivery.root) = some .directory

variable {delivery : DeliveryTree} {sites : List String} {origin : Origin} {site : String}
  {checkout before after : Checkout} {repository : Repository} {base : List String}

theorem repository?_base (found : delivery.repository? checkout = .ok (repository, base)) :
    base = delivery.base checkout.volume.working := by
  obtain ⟨_, _, _, located⟩ := repository?_eq_ok found
  exact Volume.follow_eq_walk (Volume.approach_eq_ok (Volume.locate_eq_ok.mp located).1)

private theorem scope_eq_join (plain : Path.Plain site) (inner : Path.Plain delivery.siteDirectory) :
    delivery.scope site = Path.join site delivery.siteDirectory := by
  obtain ⟨empty, _⟩ | ⟨front, ends, _⟩ | same := Path.join_cases site inner.relative
  · exact absurd empty plain.nonempty
  · exact absurd (by simp [ends]) plain.slashless
  · exact same.symm

private theorem walk_of_plain (plain : Path.Plain site) (inner : Path.Plain delivery.siteDirectory)
    (base : List String) :
    walk base [site, delivery.siteDirectory] = base ++ [site, delivery.siteDirectory] := by
  simp [walk, plain.not_dots, inner.not_dots]

theorem scopePlace_eq_ok (plain : Path.Plain site) (inner : Path.Plain delivery.siteDirectory)
    {place : List String} (found : scopePlace repository base (delivery.scope site) = .ok place) :
    place = base ++ [site, delivery.siteDirectory] := by
  have relative : Path.isAbsolute (delivery.scope site) = false := by
    rw [scope_eq_join plain inner, Path.isAbsolute_join inner.relative, plain.relative]
  have parts : Path.parts (delivery.scope site) = [site, delivery.siteDirectory] := by
    rw [scope_eq_join plain inner, inner.parts_join, plain.parts]
    rfl
  simp only [scopePlace, relative, parts, Bool.false_eq_true, if_false] at found
  split at found
  · cases found
    exact walk_of_plain plain inner base
  · cases found

private theorem mem_touched_insert {table : Table String Unit} {scope other : String} :
    other ∈ (table.insert scope ()).keys ↔ scope = other ∨ other ∈ table.keys := by
  simp only [Table.mem_keys, Table.get?_insert]
  split
  next same => simp [same]
  next differs => simp [differs]

namespace Kept

/-- Noting a scope of one of the sites leaves a tree kept. -/
theorem note (kept : Kept delivery sites origin checkout) (listed : site ∈ sites) :
    Kept delivery sites origin
      { checkout with touched := checkout.touched.insert (delivery.scope site) () } := by
  have more (place : List String)
      (untouched : ¬ delivery.Touched origin.working
        (checkout.touched.insert (delivery.scope site) ()) place) :
      ¬ delivery.Touched origin.working checkout.touched place := by
    rintro ⟨other, noted, inside⟩
    exact untouched ⟨other, mem_touched_insert.mpr (.inr noted), inside⟩
  obtain ⟨repository, there, descends⟩ := kept.descends
  refine ⟨kept.grounded, kept.working, ?_, ⟨repository, there, ?_⟩, ?_, kept.standing⟩
  · intro scope noted
    rcases mem_touched_insert.mp noted with rfl | noted
    · exact ⟨site, listed, rfl⟩
    · exact kept.noted scope noted
  · exact ⟨descends.top, descends.recorded, fun place free => descends.index place (more place free),
      fun place free => descends.headTree place (more place free)⟩
  · exact fun place free => kept.files place (more place free)

theorem careless (kept : Kept delivery sites origin checkout) (mishaps : List Bool) :
    Kept delivery sites origin { checkout with mishaps } :=
  ⟨kept.grounded, kept.working, kept.noted, kept.descends, kept.files, kept.standing⟩

end Kept

theorem Publishing.careless (publishing : Publishing delivery sites origin site checkout)
    (mishaps : List Bool) : Publishing delivery sites origin site { checkout with mishaps } :=
  ⟨publishing.toKept.careless mishaps, publishing.begun, publishing.started⟩

/-- Directories may be made, and files written in the scope of the site that is published. -/
theorem Publishing.grow (publishing : Publishing delivery sites origin site checkout) {volume : Volume}
    (grounded : volume.Grounded)
    (grows : checkout.volume.Grows (fun place => delivery.sitePlace origin.working site <+: place) volume)
    (standing : ∀ place bytes, checkout.volume.file? place = some bytes → ∃ bytes, volume.file? place = some bytes) :
    Publishing delivery sites origin site { checkout with volume } := by
  have start := grows.start delivery.root
  refine ⟨⟨grounded, grows.working.trans publishing.working, publishing.noted, publishing.descends, ?_, ?_⟩,
    publishing.begun, ?_⟩
  · intro place free
    rw [grows.files place fun inside => free ⟨site, publishing.begun, inside⟩]
    exact publishing.files place free
  · intro place wanted
    obtain ⟨bytes, held⟩ := publishing.standing place wanted
    exact standing place bytes held
  · change volume.entry? (volume.start delivery.root) = some .directory
    rw [start]
    exact grows.directories _ publishing.started

private theorem Publishing.descend (publishing : Publishing delivery sites origin site checkout)
    (descends : Descends origin (delivery.Touched origin.working checkout.touched) repository) :
    Publishing delivery sites origin site { checkout with repository := some repository } :=
  ⟨⟨publishing.grounded, publishing.working, publishing.noted, ⟨repository, rfl, descends⟩, publishing.files,
    publishing.standing⟩, publishing.begun, publishing.started⟩

namespace Descends

variable {touched : List String → Prop} {scope : List String}

theorem stage (descends : Descends origin touched repository) (inside : ∀ place, scope <+: place → touched place)
    (volume : Volume) : Descends origin touched (repository.stage volume scope) := by
  refine ⟨descends.top, descends.recorded, fun place free => ?_, descends.headTree⟩
  have apart : ¬ scope <+: place := fun way => free (inside place way)
  rw [Repository.stage, Table.get?_union, Table.get?_filter, Repository.get?_within, if_neg apart,
    Repository.get?_outside, if_neg apart]
  exact descends.index place free

theorem commit (descends : Descends origin touched repository) (inside : ∀ place, scope <+: place → touched place)
    {author message : String} {made : Repository} (done : repository.commit scope author message = .ok made) :
    Descends origin touched made := by
  rw [Repository.commit] at done
  split at done
  · cases done
  · split at done
    · cases done
    · cases done
      refine ⟨descends.top, ?_, descends.index, fun place free => ?_⟩
      · obtain ⟨commit, there, same⟩ := descends.recorded
        exact ⟨commit, List.getElem?_append_left (List.getElem?_eq_some_iff.mp there).1 ▸ there, same⟩
      · have apart : ¬ scope <+: place := fun way => free (inside place way)
        rw [Repository.headTree]
        dsimp only
        rw [Repository.treeOf, List.getElem?_concat_length]
        dsimp only
        rw [Table.get?_union, Repository.get?_within, if_neg apart, Repository.get?_outside, if_neg apart]
        exact descends.headTree place free

end Descends

section Steps

open Delivering

/-- Commands keep what their actions do. -/
theorem keeps_command {invariant : Checkout → Prop} {α : Type} {words : List String}
    {action : Repository → List String → Volume → Except RepositoryFault (α × Repository × Volume)}
    (careless : ∀ checkout mishaps, invariant checkout → invariant { checkout with mishaps })
    (acts : ∀ checkout repository value repository' volume, invariant checkout →
      checkout.repository = some repository →
      action repository (delivery.base checkout.volume.working) checkout.volume =
        .ok (value, repository', volume) →
      invariant { checkout with repository := some repository', volume }) :
    Keeps invariant (delivery.command words action) := by
  intro checkout kept
  obtain ⟨error, mishaps, failed⟩ | ⟨repository, base, value, repository', volume, mishaps, found, acted, done⟩ :=
    delivery.on_command words action checkout
  · rw [failed]
    exact careless checkout mishaps kept
  · rw [done]
    obtain ⟨there, _⟩ := repository?_eq_ok found
    rw [repository?_base found] at acted
    exact careless _ mishaps (acts checkout repository value repository' volume kept there acted)

variable (plain : Path.Plain site) (inner : Path.Plain delivery.siteDirectory)

include plain inner

private theorem start_deployDirectory (volume : Volume) :
    volume.start (delivery.deployDirectory site) = volume.start delivery.root := by
  rw [deployDirectory, Volume.start_join inner, siteRoot, Volume.start_join plain]

private theorem keeps_makeDirectory :
    Keeps (Publishing delivery sites origin site) (delivery.makeDirectory site) := by
  refine Keeps.step (fun _ mishaps publishing => publishing.careless mishaps) fun checkout publishing => ?_
  have there : checkout.volume.entry? (checkout.volume.start (delivery.deployDirectory site)) = some .directory := by
    rw [start_deployDirectory plain inner]
    exact publishing.started
  have grows : checkout.volume.Grows (fun _ => False)
    (checkout.volume.makeDirectories (delivery.deployDirectory site)).2 := .makeDirectories _ _
  refine publishing.grow (publishing.grounded.makeDirectories there) (grows.mono fun _ => False.elim) ?_
  intro place bytes held
  exact ⟨bytes, (grows.files place id).trans held⟩

theorem follow_deployDirectory {volume : Volume} {place : List String}
    (led : volume.follow (volume.start (delivery.deployDirectory site))
      (Path.parts (delivery.deployDirectory site)) = .ok place) :
    place = delivery.sitePlace volume.working site := by
  rw [Volume.follow_eq_walk led, start_deployDirectory plain inner, deployDirectory, inner.parts_join, siteRoot,
    plain.parts_join, List.append_assoc, walk, List.foldl_append]
  exact walk_of_plain plain inner _

private theorem keeps_writeFile {file : RenderedFile} (named : Path.Plain file.name) :
    Keeps (Publishing delivery sites origin site) (delivery.writeFile site file) := by
  refine Keeps.step (fun _ mishaps publishing => publishing.careless mishaps) fun checkout publishing => ?_
  change Publishing delivery sites origin site { checkout with
    volume := ((Filing.write _ (Path.join (delivery.deployDirectory site) file.name) file.contents).on
      checkout.volume).2 }
  cases done : checkout.volume.write (Path.join (delivery.deployDirectory site) file.name)
      file.contents.toUTF8 with
  | error fault =>
    rw [Filing.on_write_of_error _ done]
    exact publishing
  | ok volume =>
    rw [Filing.on_write_of_ok _ done]
    obtain ⟨place, located, _, held, grows⟩ := Volume.found_of_write done
    obtain ⟨above, led, there, rfl⟩ := Volume.locate_join named located
    have inside : delivery.sitePlace origin.working site <+: above ++ [file.name] := by
      rw [follow_deployDirectory plain inner led, publishing.working]
      exact List.prefix_append _ _
    refine publishing.grow (publishing.grounded.write named done) (grows.mono ?_) ?_
    · rintro _ rfl
      exact inside
    · intro place bytes before
      by_cases same : place = above ++ [file.name]
      · exact ⟨_, same ▸ held⟩
      · exact ⟨bytes, (grows.files place same).trans before⟩

/-- The scope of a site is where its files are. -/
theorem touched_of_scope (publishing : Publishing delivery sites origin site checkout) {scope : List String}
    (found : scopePlace repository (delivery.base checkout.volume.working) (delivery.scope site) = .ok scope)
    (place : List String) (inside : scope <+: place) :
    delivery.Touched origin.working checkout.touched place := by
  rw [scopePlace_eq_ok plain inner found, publishing.working] at inside
  exact ⟨site, publishing.begun, inside⟩

private theorem keeps_stage : Keeps (Publishing delivery sites origin site) (delivery.stage (delivery.scope site)) := by
  refine keeps_command (fun _ mishaps publishing => publishing.careless mishaps) ?_
  intro checkout repository value repository' volume publishing there acted
  obtain ⟨scope, found, acted⟩ := bind_eq_ok.mp acted
  obtain ⟨_, same, descends⟩ := publishing.descends
  obtain rfl := Option.some_inj.mp (there.symm.trans same)
  dsimp only at acted
  split at acted
  · cases acted
  · split at acted
    · cases acted
    · cases acted
      exact publishing.descend (descends.stage (touched_of_scope plain inner publishing found) _)

omit plain inner in
private theorem keeps_isClean : Keeps (Publishing delivery sites origin site)
    (delivery.isClean (delivery.scope site)) := by
  refine keeps_command (fun _ mishaps publishing => publishing.careless mishaps) ?_
  intro checkout repository value repository' volume publishing there acted
  obtain ⟨scope, found, acted⟩ := bind_eq_ok.mp acted
  obtain ⟨_, same, descends⟩ := publishing.descends
  obtain rfl := Option.some_inj.mp (there.symm.trans same)
  cases acted
  exact publishing.descend descends

private theorem keeps_commit (message : String) :
    Keeps (Publishing delivery sites origin site) (delivery.commit (delivery.scope site) message) := by
  refine keeps_command (fun _ mishaps publishing => publishing.careless mishaps) ?_
  intro checkout repository value repository' volume publishing there acted
  obtain ⟨scope, found, acted⟩ := bind_eq_ok.mp acted
  obtain ⟨made, committed, acted⟩ := bind_eq_ok.mp acted
  obtain ⟨_, same, descends⟩ := publishing.descends
  obtain rfl := Option.some_inj.mp (there.symm.trans same)
  cases acted
  exact publishing.descend (descends.commit (touched_of_scope plain inner publishing found) committed)

omit plain inner in
private theorem keeps_head : Keeps (Publishing delivery sites origin site) delivery.head := by
  refine keeps_command (fun _ mishaps publishing => publishing.careless mishaps) ?_
  intro checkout repository value repository' volume publishing there acted
  obtain ⟨_, same, descends⟩ := publishing.descends
  obtain rfl := Option.some_inj.mp (there.symm.trans same)
  split at acted
  · cases acted
    exact publishing.descend descends
  · cases acted

omit plain inner in
theorem on_begin (checkout : Checkout) : (delivery.begin site).on checkout =
    if checkout.volume.isDirectory (delivery.siteRoot site) then
      (.ok (), { checkout with touched := checkout.touched.insert (delivery.scope site) () })
    else (.error (.missingSite (delivery.siteRoot site)), checkout) := by
  unfold DeliveryTree.begin
  rfl

omit plain inner in
private theorem keeps_begin (listed : site ∈ sites) : Keeps (Kept delivery sites origin) (delivery.begin site) := by
  intro checkout kept
  rw [on_begin]
  split
  · exact kept.note listed
  · exact kept

omit inner in
private theorem publishing_of_begin (listed : site ∈ sites) (kept : Kept delivery sites origin before)
    (done : (delivery.begin site).on before = (.ok (), after)) : Publishing delivery sites origin site after := by
  rw [on_begin] at done
  split at done
  next there =>
    cases done
    refine ⟨kept.note listed, mem_touched_insert.mpr (.inl rfl), ?_⟩
    obtain ⟨place, located, _⟩ := Volume.find_eq_ok.mp (Volume.isDirectory_iff.mp there)
    have led := Volume.approach_eq_ok (Volume.locate_eq_ok.mp located).1
    rw [siteRoot, Volume.start_join plain, plain.parts_join] at led
    exact Volume.start_of_follow led (by simp)
  · cases done

/-- Publishing keeps a tree from which one can go back, wherever it stops. -/
theorem keeps_publish (listed : site ∈ sites) {files : List RenderedFile}
    (named : ∀ file ∈ files, Path.Plain file.name) (message : String) :
    Keeps (Kept delivery sites origin) (delivery.publish site files message) := by
  have steps : Keeps (Publishing delivery sites origin site)
      ((delivery.publishSteps site files).forM id) := by
    refine Keeps.forM fun work member => ?_
    rw [publishSteps, List.cons_append, List.mem_cons, List.mem_append, List.mem_singleton] at member
    obtain rfl | member | rfl := member
    · exact keeps_makeDirectory plain inner
    · obtain ⟨file, listed, rfl⟩ := List.mem_map.mp member
      exact keeps_writeFile plain inner (named file listed)
    · exact keeps_stage plain inner
  refine Keeps.strengthen (keeps_begin listed) (fun _ _ _ => publishing_of_begin plain listed) ?_
    fun _ publishing => publishing.toKept
  intro _
  refine steps.bind fun _ => keeps_isClean.bind fun clean => ?_
  split
  · exact .pure none
  · exact (keeps_commit plain inner message).bind fun _ => keeps_head.map some

end Steps

end DeliveryTree

end IntentRollout
