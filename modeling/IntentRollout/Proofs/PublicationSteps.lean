import IntentRollout.Proofs.TreeRestoration

/-! The steps of a publication. A try may stop after any of them; one that goes on has written the files, compared them
with the head or committed them, and every step before that leaves the commits as they are. -/

namespace IntentRollout

namespace Volume

variable {volume after : Volume} {top scope place : List String}

/-- No rule takes in a place at or below a scope, or a directory on the way there. -/
def Unruled (volume : Volume) (top scope : List String) : Prop :=
  ∀ directory names place, top <+: directory → scope <+: place → directory ++ names <+: place →
    ∀ rule ∈ volume.ignoreRules directory, rule.negated = false → rule.applies true names = false

private theorem rule_of_verdict? {least depth : Nat} (ignored : volume.verdict? place least depth = some true) :
    ∃ depth ≥ least, ∃ rule ∈ volume.ignoreRules (place.take depth),
      rule.negated = false ∧ rule.applies true (place.drop depth) = true := by
  induction depth with
  | zero => cases ignored
  | succ depth ih =>
    rw [verdict?] at ignored
    split at ignored
    · cases ignored
    next deep =>
      dsimp only at ignored
      split at ignored
      next rule found =>
        have member := List.mem_of_find?_eq_some found
        have applies := List.find?_some found
        simp only [IgnoreRule.applies, Bool.and_eq_true] at applies
        refine ⟨depth, Nat.not_lt.mp deep, rule, List.mem_reverse.mp member, by simpa using ignored, ?_⟩
        simp only [IgnoreRule.applies, Bool.true_or, Bool.true_and, applies.2]
      next => exact ih ignored

theorem Unruled.not_ignored (unruled : volume.Unruled top scope) (inTop : top <+: scope) (inside : scope <+: place) :
    volume.isIgnored top place = false := by
  rw [isIgnored, List.any_eq_false]
  intro depth _ ignored
  obtain ⟨level, least, rule, listed, positive, applies⟩ := rule_of_verdict? (of_decide_eq_true ignored)
  have reach : top <+: place := inTop.trans inside
  have long : top.length ≤ place.length := reach.length_le
  have way : place.take (top.length + depth + 1) <+: place := List.take_prefix _ _
  have above : top <+: (place.take (top.length + depth + 1)).take level := by
    apply List.prefix_of_prefix_length_le reach ((List.take_prefix _ _).trans way)
    rw [List.length_take, List.length_take]
    omega
  rw [unruled _ _ place above inside (by rwa [List.take_append_drop]) rule listed positive] at applies
  cases applies

/-- Writing files that hold no rules changes no rule. -/
theorem Unruled.grows {written : List String → Prop} (unruled : volume.Unruled top scope)
    (grows : volume.Grows written after) (lawless : ∀ place, written place → place.getLast? ≠ some ".gitignore") :
    after.Unruled top scope := by
  intro directory names place inTop inside split rule listed
  rw [ignoreRules, grows.files _ fun there => lawless _ there List.getLast?_concat] at listed
  exact unruled directory names place inTop inside split rule listed

theorem get?_files_of_file? {bytes : ByteArray} (inTop : top <+: place) (held : volume.file? place = some bytes) :
    (volume.files top).get? place = some bytes := by
  rw [files, Table.get?_filterMap, Option.bind_eq_some_iff]
  cases place with
  | nil => cases held
  | cons first rest =>
    refine ⟨.file bytes, file?_eq_some.mp held, ?_⟩
    exact if_pos (List.isPrefixOf_iff_prefix.mpr inTop)

end Volume

namespace Checkout

def record (checkout : Checkout) : Option (List Commit × Option Nat) :=
  checkout.repository.map fun repository => (repository.commits, repository.head)

def head? (checkout : Checkout) : Option Nat := checkout.repository.bind (·.head)

def Recorded (checkout : Checkout) : Prop :=
  ∀ repository ∈ checkout.repository, ∀ number ∈ repository.head, number < repository.commits.length

/-- There is a commit more, and it is the head. -/
def Moves (before after : Checkout) : Prop :=
  ∃ commits head made, before.record = some (commits, head) ∧
    after.record = some (commits ++ [made], some commits.length)

def commitCount (checkout : Checkout) : Nat := (checkout.record.map fun record => record.1.length).getD 0

variable {before middle after : Checkout}

theorem head?_eq (checkout : Checkout) : checkout.head? = checkout.record.bind (·.2) := by
  rw [head?, record]
  cases checkout.repository <;> rfl

/-- The head is as before, or one of the commits made since. -/
structure Onward (before after : Checkout) : Prop where
  more : before.commitCount ≤ after.commitCount
  head : after.head? = before.head? ∨ ∃ number, after.head? = some number ∧ before.commitCount ≤ number

theorem Onward.of_same (same : after.record = before.record) : Onward before after := by
  refine ⟨Nat.le_of_eq ?_, .inl ?_⟩
  · rw [commitCount, commitCount, same]
  · rw [head?_eq, head?_eq, same]

theorem Moves.head (moves : before.Moves after) :
    after.head? = some before.commitCount ∧ after.commitCount = before.commitCount + 1 := by
  obtain ⟨commits, head, made, first, second⟩ := moves
  rw [head?_eq, commitCount, commitCount, first, second]
  simp

theorem Moves.onward (moves : before.Moves after) : Onward before after := by
  obtain ⟨head, count⟩ := moves.head
  exact ⟨by omega, .inr ⟨_, head, Nat.le_refl _⟩⟩

theorem Onward.trans (first : Onward before middle) (rest : Onward middle after) : Onward before after := by
  refine ⟨Nat.le_trans first.more rest.more, ?_⟩
  obtain same | ⟨number, head, late⟩ := rest.head
  · rw [same]
    exact first.head
  · exact .inr ⟨number, head, Nat.le_trans first.more late⟩

/-- Whoever has moved the head once does not get it back. -/
theorem Moves.ne_of_onward (recorded : before.Recorded) (moves : before.Moves middle) (rest : Onward middle after) :
    after.head? ≠ before.head? := by
  obtain ⟨head, count⟩ := moves.head
  obtain ⟨number, now, late⟩ : ∃ number, after.head? = some number ∧ before.commitCount ≤ number := by
    obtain same | ⟨number, now, late⟩ := rest.head
    · exact ⟨_, same.trans head, Nat.le_refl _⟩
    · exact ⟨number, now, by omega⟩
  rw [now]
  intro same
  obtain ⟨repository, there, known⟩ := Option.bind_eq_some_iff.mp same.symm
  have inside := recorded repository there number known
  rw [commitCount, record, there] at late
  exact absurd late (Nat.not_le.mpr inside)

end Checkout

namespace DeliveryTree

private theorem walk_append (place first rest : List String) :
    walk place (first ++ rest) = walk (walk place first) rest :=
  List.foldl_append

/-- A relative path that goes down only, to something that is not a file of rules. -/
structure Inner (name : String) : Prop where
  relative : Path.isAbsolute name = false
  some : Path.parts name ≠ []
  onward : ".." ∉ Path.parts name
  lawless : (Path.parts name).getLast? ≠ Option.some ".gitignore"

/-- Files for a site that have each a place of their own in its directory. -/
structure Deliverable (tree : DeliveryTree) (site : String) (files : List RenderedFile) : Prop where
  named : site ≠ ""
  relative : Path.isAbsolute tree.siteDirectory = false
  inner : ∀ file ∈ files, Inner file.name
  apart : (files.map fun file => Path.parts file.name).Nodup

def scopeBase (tree : DeliveryTree) (working : List String) (site : String) : List String :=
  walk (if Path.isAbsolute site then [] else tree.base working) (Path.parts site ++ Path.parts tree.siteDirectory)

def filePlace (tree : DeliveryTree) (working : List String) (site : String) (file : RenderedFile) : List String :=
  tree.scopeBase working site ++ Path.parts file.name

theorem scopeBase_prefix (tree : DeliveryTree) (working : List String) (site : String) (file : RenderedFile) :
    tree.scopeBase working site <+: tree.filePlace working site file :=
  List.prefix_append _ _

namespace Deliverable

variable {tree : DeliveryTree} {site : String} {files : List RenderedFile} {repository : Repository}
  {volume : Volume} {place : List String}

theorem scopePlace_eq_ok (fits : Deliverable tree site files)
    (found : scopePlace repository (tree.base volume.working) (tree.scope site) = .ok place) :
    place = tree.scopeBase volume.working site ∧ repository.top <+: place := by
  have absolute : Path.isAbsolute (tree.scope site) = Path.isAbsolute site := by
    cases characters : site.toList with
    | nil => exact absurd (String.toList_eq_nil_iff.mp characters) fits.named
    | cons first others => simp [Path.isAbsolute, scope, characters]
  have parts : Path.parts (tree.scope site) = Path.parts site ++ Path.parts tree.siteDirectory := by
    simp [Path.parts, scope, pieces_append]
  rw [scopePlace, absolute, parts] at found
  by_cases inTop : repository.top.isPrefixOf (tree.scopeBase volume.working site) = true
  · obtain rfl := Except.ok.inj ((if_pos inTop).symm.trans found)
    exact ⟨rfl, List.isPrefixOf_iff_prefix.mp inTop⟩
  · cases (if_neg inTop).symm.trans found

theorem follow_deployDirectory (fits : Deliverable tree site files) {names : List String}
    (led : volume.follow (volume.start (tree.deployDirectory site)) (Path.parts (tree.deployDirectory site) ++ names) =
      .ok place) : place = walk (tree.scopeBase volume.working site) names := by
  rw [Volume.follow_eq_walk led, walk_append, deployDirectory, Path.parts_join fits.relative, Volume.start,
    Path.isAbsolute_join fits.relative, scopeBase, siteRoot]
  congr 1
  by_cases absolute : Path.isAbsolute site = true
  · rw [Path.join, if_pos absolute, if_pos absolute, if_pos absolute]
  · have relative := Bool.eq_false_iff.mpr absolute
    rw [Path.isAbsolute_join relative, Path.parts_join relative, if_neg absolute, base, ← walk_append,
      List.append_assoc]

theorem tail {file : RenderedFile} (fits : Deliverable tree site (file :: files)) : Deliverable tree site files :=
  ⟨fits.named, fits.relative, fun other member => fits.inner other (List.mem_cons_of_mem _ member),
    (List.nodup_cons.mp fits.apart).2⟩

end Deliverable

open Delivering

variable {tree : DeliveryTree} {site : String} {files : List RenderedFile} {before after : Checkout}
  {repository : Repository} {α : Type}

/-- All is written, and the scope is staged. -/
structure Prepared (tree : DeliveryTree) (site : String) (files : List RenderedFile) (before after : Checkout)
    (repository : Repository) : Prop where
  there : before.repository = some repository
  inTop : repository.top <+: tree.scopeBase before.volume.working site
  staged : after.repository = some (repository.stage after.volume (tree.scopeBase before.volume.working site))
  grows : before.volume.Grows (fun place => ∃ file ∈ files, place = tree.filePlace before.volume.working site file)
    after.volume
  held : ∀ file ∈ files,
    after.volume.file? (tree.filePlace before.volume.working site file) = some file.contents.toUTF8

structure Written (tree : DeliveryTree) (site : String) (files : List RenderedFile) (before after : Checkout) :
    Prop where
  repository : after.repository = before.repository
  grows : before.volume.Grows (fun place => ∃ file ∈ files, place = tree.filePlace before.volume.working site file)
    after.volume
  held : ∀ file ∈ files,
    after.volume.file? (tree.filePlace before.volume.working site file) = some file.contents.toUTF8

theorem Written.none : Written tree site [] before before :=
  ⟨rfl, .refl, nofun⟩

namespace Deliverable

end Deliverable

end DeliveryTree

end IntentRollout
