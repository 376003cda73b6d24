import IntentRollout.Proofs.PublicationSteps

/-! Tries at a publication, one after the other. Each starts from what the one before it has left behind. What the last
try says is true of the head that it finds; but a try that has committed and then fails to ask for the head leaves
nothing to commit to the next one. -/

namespace IntentRollout

namespace DeliveryTree

open Delivering

variable {tree : DeliveryTree} {site message : String} {files : List RenderedFile} {before after : Checkout}
  {repository : Repository} {α : Type}

/-- The head has some files in the directory of a site. -/
def HeadHolds (tree : DeliveryTree) (site : String) (files : List RenderedFile) (checkout : Checkout) : Prop :=
  ∃ repository, checkout.repository = some repository ∧ ∀ file ∈ files,
    repository.headTree.get? (tree.filePlace checkout.volume.working site file) = some file.contents.toUTF8

/-- All of a publication up to the commit; says whether there is nothing to commit. -/
def prepare (tree : DeliveryTree) (site : String) (files : List RenderedFile) : Delivering Bool := do
  tree.begin site
  (tree.publishSteps site files).forM id
  tree.isClean (tree.scope site)

namespace Deliverable

end Deliverable

namespace Prepared

variable (prepared : Prepared tree site files before after repository)

include prepared

theorem get?_index (unruled : after.volume.Unruled repository.top (tree.scopeBase before.volume.working site))
    {file : RenderedFile} (member : file ∈ files) :
    (repository.stage after.volume (tree.scopeBase before.volume.working site)).index.get?
      (tree.filePlace before.volume.working site file) = some file.contents.toUTF8 := by
  have inside := tree.scopeBase_prefix before.volume.working site file
  have found := Volume.get?_files_of_file? (prepared.inTop.trans inside) (prepared.held file member)
  have eligible : repository.isEligible after.volume (tree.filePlace before.volume.working site file) = true := by
    rw [Repository.isEligible, unruled.not_ignored prepared.inTop inside]
    exact Bool.or_true _
  rw [Repository.stage, Table.get?_union, Repository.get?_outside, if_pos inside, Table.get?_filter,
    Repository.get?_within, if_pos inside, found]
  simp [eligible]

end Prepared

structure Ready (tree : DeliveryTree) (site : String) (checkout : Checkout) : Prop where
  unruled : ∀ repository ∈ checkout.repository,
    checkout.volume.Unruled repository.top (tree.scopeBase checkout.volume.working site)
  recorded : checkout.Recorded

theorem Ready.careless {checkout : Checkout} (ready : Ready tree site checkout) (mishaps : List Bool) :
    Ready tree site { checkout with mishaps } :=
  ⟨ready.unruled, ready.recorded⟩

theorem Ready.grow {checkout : Checkout} {volume : Volume} (ready : Ready tree site checkout)
    (grows : checkout.volume.Grows (fun place => place.getLast? ≠ some ".gitignore") volume) :
    Ready tree site { checkout with volume } := by
  refine ⟨fun repository there => ?_, ready.recorded⟩
  dsimp only
  rw [grows.working]
  exact (ready.unruled repository there).grows grows fun _ => id

/-- A try that has made its commit and then cannot ask for the head. -/
def Lost (tree : DeliveryTree) (site : String) (files : List RenderedFile) (message : String) (before : Checkout) :
    Prop :=
  ∃ compared committed refused error, (tree.prepare site files).on before = (.ok false, compared) ∧
    (tree.commit (tree.scope site) message).on compared = (.ok (), committed) ∧
    tree.head.on committed = (.error error, refused)

inductive Came (tree : DeliveryTree) (site : String) (files : List RenderedFile) (message : String)
    (before : Checkout) : Except DeliveryError (Option String) → Checkout → Prop where
  | refused {error : DeliveryError} {after : Checkout} (same : after.record = before.record)
      (kept : ¬ tree.Lost site files message before) : Came tree site files message before (.error error) after
  | unchanged {after : Checkout} (same : after.record = before.record) (holds : tree.HeadHolds site files after)
      (kept : ¬ tree.Lost site files message before) : Came tree site files message before (.ok none) after
  | committed {after : Checkout} {number : Nat} (moves : before.Moves after) (head : after.head? = some number)
      (holds : tree.HeadHolds site files after) (kept : ¬ tree.Lost site files message before) :
      Came tree site files message before (.ok (some (Repository.revision number))) after
  | lost {error : DeliveryError} {after : Checkout} (moves : before.Moves after)
      (lost : tree.Lost site files message before) : Came tree site files message before (.error error) after

def retry (policy : RetryPolicy) (work : Delivering α) (left attempt : Nat) : Delivering α :=
  policy.runFrom (m := StateM Checkout) DeliveryError.isTransient (fun _ => pure ()) (fun _ => work) left attempt

structure Settled (tree : DeliveryTree) (site : String) (files : List RenderedFile) (message : String)
    (before : Checkout) (starts : List Checkout) (result : Except DeliveryError (Option String)) (after : Checkout) :
    Prop where
  committed : ∀ revision, result = .ok (some revision) → ∃ number, after.head? = some number ∧
    revision = Repository.revision number ∧ tree.HeadHolds site files after
  unchanged : result = .ok none → tree.HeadHolds site files after
  unmoved : (∀ revision, result ≠ .ok (some revision)) → (∀ start ∈ starts, ¬ tree.Lost site files message start) →
    after.head? = before.head?
  moved : (∃ start ∈ starts, tree.Lost site files message start) → after.head? ≠ before.head?
  onward : before.Onward after

variable {result : Except DeliveryError (Option String)} {starts : List Checkout}

theorem Came.onward (came : Came tree site files message before result after) : before.Onward after := by
  cases came with
  | refused same | unchanged same => exact .of_same same
  | committed moves | lost moves => exact moves.onward

/-- What the last try comes to. -/
theorem Came.settled (came : Came tree site files message before result after) (recorded : before.Recorded) :
    Settled tree site files message before [before] result after := by
  refine ⟨?_, ?_, ?_, ?_, came.onward⟩
  · rintro revision rfl
    cases came with
    | committed moves head holds => exact ⟨_, head, rfl, holds⟩
  · rintro rfl
    cases came with
    | unchanged same holds => exact holds
  · intro told kept
    rw [List.forall_mem_singleton] at kept
    cases came with
    | refused same | unchanged same => rw [Checkout.head?_eq, Checkout.head?_eq, same]
    | committed => exact absurd rfl (told _)
    | lost _ lost => exact absurd lost kept
  · rintro ⟨_, only, lost⟩
    rw [List.mem_singleton.mp only] at lost
    cases came with
    | refused _ kept | unchanged _ _ kept | committed _ _ _ kept => exact absurd lost kept
    | lost moves => exact moves.ne_of_onward recorded (.of_same rfl)

/-- What tries come to after one that has failed. -/
theorem Settled.again {middle : Checkout} {error : DeliveryError} (recorded : before.Recorded)
    (came : Came tree site files message before (.error error) middle)
    (rest : Settled tree site files message middle starts result after) :
    Settled tree site files message before (before :: starts) result after := by
  refine ⟨rest.committed, rest.unchanged, ?_, ?_, came.onward.trans rest.onward⟩
  · intro told kept
    obtain ⟨first, kept⟩ := List.forall_mem_cons.mp kept
    cases came with
    | refused same => rw [rest.unmoved told kept, Checkout.head?_eq, Checkout.head?_eq, same]
    | lost _ lost => exact absurd lost first
  · rintro ⟨start, member, lost⟩
    cases came with
    | refused same kept =>
      have later : start ∈ starts := by
        obtain rfl | later := List.mem_cons.mp member
        · exact absurd lost kept
        · exact later
      have moved := rest.moved ⟨start, later, lost⟩
      rwa [Checkout.head?_eq middle, same, ← Checkout.head?_eq] at moved
    | lost moves => exact moves.ne_of_onward recorded rest.onward

end DeliveryTree

end IntentRollout
