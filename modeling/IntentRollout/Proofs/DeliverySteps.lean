import IntentRollout.Proofs.TreeChanges
import IntentRollout.WorkTree.Delivery

/-! Steps of a delivery. What every step keeps, whether it is done, refused or fails by mishap, is kept by the
whole; so an invariant of deliveries is shown for one step at a time. -/

namespace IntentRollout

namespace Delivering

variable {α β : Type} {invariant stronger : Checkout → Prop}

def on (work : Delivering α) (checkout : Checkout) : Except DeliveryError α × Checkout := work.run checkout

theorem on_bind (work : Delivering α) (next : α → Delivering β) (checkout : Checkout) :
    (work >>= next).on checkout =
      match work.on checkout with
      | (.ok value, changed) => (next value).on changed
      | (.error error, changed) => (.error error, changed) := by
  change (match work.on checkout with | (result, changed) => (ExceptT.bindCont next result) changed) = _
  generalize work.on checkout = done
  obtain ⟨result, changed⟩ := done
  cases result <;> rfl

theorem on_bind_eq_ok {work : Delivering α} {next : α → Delivering β} {before after : Checkout} {value : β} :
    (work >>= next).on before = (.ok value, after) ↔
      ∃ first middle, work.on before = (.ok first, middle) ∧ (next first).on middle = (.ok value, after) := by
  rw [on_bind]
  generalize work.on before = done
  obtain ⟨result, changed⟩ := done
  cases result <;> simp

theorem on_get_bind (next : Checkout → Delivering β) (checkout : Checkout) :
    ((get : Delivering Checkout) >>= next).on checkout = (next checkout).on checkout :=
  rfl

theorem on_eq_ok {work : Delivering α} {checkout : Checkout} {value : α}
    (done : (work.on checkout).1.toOption = some value) :
    work.on checkout = (.ok value, (work.on checkout).2) := run_eq_ok done

/-- A step fails by mishap and does nothing, or it is done; then it may have used up a mishap. -/
theorem on_step (mishap : DeliveryError) (work : Delivering α) (checkout : Checkout) :
    (Delivering.step mishap work).on checkout = work.on checkout ∨
      ∃ mishaps, (Delivering.step mishap work).on checkout = (.error mishap, { checkout with mishaps }) ∨
        (Delivering.step mishap work).on checkout = work.on { checkout with mishaps } := by
  obtain ⟨volume, repository, touched, mishaps⟩ := checkout
  cases mishaps with
  | nil => exact .inl rfl
  | cons due mishaps =>
    cases due with
    | true => exact .inr ⟨mishaps, .inl rfl⟩
    | false => exact .inr ⟨mishaps, .inr rfl⟩

/-- Work that leaves an invariant as it is, whatever comes of the work. -/
def Keeps (invariant : Checkout → Prop) (work : Delivering α) : Prop :=
  ∀ checkout, invariant checkout → invariant (work.on checkout).2

namespace Keeps

theorem pure (value : α) : Keeps invariant (Pure.pure value : Delivering α) := fun _ => id

theorem bind {work : Delivering α} {next : α → Delivering β} (first : Keeps invariant work)
    (rest : ∀ value, Keeps invariant (next value)) : Keeps invariant (work >>= next) := by
  intro checkout kept
  have before := first checkout kept
  rw [on_bind]
  generalize work.on checkout = done at before ⊢
  obtain ⟨result, changed⟩ := done
  cases result with
  | error => exact before
  | ok value => exact rest value changed before

theorem map {work : Delivering α} (keeps : Keeps invariant work) (change : α → β) :
    Keeps invariant (change <$> work) := by
  rw [← bind_pure_comp]
  exact keeps.bind fun _ => pure _

/-- What comes after work that succeeds may rest on more than what comes after work that fails. -/
theorem strengthen {work : Delivering α} {next : α → Delivering β} (first : Keeps invariant work)
    (gain : ∀ before value after, invariant before → work.on before = (.ok value, after) → stronger after)
    (rest : ∀ value, Keeps stronger (next value)) (weaken : ∀ checkout, stronger checkout → invariant checkout) :
    Keeps invariant (work >>= next) := by
  intro checkout kept
  have before := first checkout kept
  rw [on_bind]
  cases done : work.on checkout with
  | mk result changed =>
    rw [done] at before
    cases result with
    | error => exact before
    | ok value => exact weaken _ (rest value changed (gain checkout value changed kept done))

theorem forM {works : List (Delivering Unit)} (each : ∀ work ∈ works, Keeps invariant work) :
    Keeps invariant (works.forM id) := by
  induction works with
  | nil => exact pure ()
  | cons work rest ih =>
    rw [List.forall_mem_cons] at each
    exact each.1.bind fun _ => ih each.2

/-- A step keeps what it keeps without mishaps, if mishaps to come do not matter. -/
theorem step {mishap : DeliveryError} {work : Delivering α}
    (careless : ∀ checkout mishaps, invariant checkout → invariant { checkout with mishaps })
    (keeps : Keeps invariant work) : Keeps invariant (Delivering.step mishap work) := by
  intro checkout kept
  rcases on_step mishap work checkout with same | ⟨mishaps, same | same⟩
  · rw [same]
    exact keeps checkout kept
  · rw [same]
    exact careless checkout mishaps kept
  · rw [same]
    exact keeps _ (careless checkout mishaps kept)

end Keeps

end Delivering

namespace DeliveryTree

variable {tree : DeliveryTree} {checkout before after : Checkout} {repository : Repository}
  {base : List String} {α : Type}

theorem repository?_eq_ok (found : tree.repository? checkout = .ok (repository, base)) :
    checkout.repository = some repository ∧ repository.top <+: base ∧
      checkout.volume.find tree.root = .ok .directory ∧ checkout.volume.locate tree.root = .ok base := by
  rw [repository?] at found
  split at found
  next directory located =>
    split at found
    next there =>
      split at found
      next inside =>
        cases found
        exact ⟨there, List.isPrefixOf_iff_prefix.mp inside, Volume.isDirectory_iff.mp directory, located⟩
      · cases found
    · cases found
  · cases found

/-- A command changes nothing, or it is done on the repository of the tree. -/
theorem on_command (tree : DeliveryTree) (words : List String)
    (action : Repository → List String → Volume → Except RepositoryFault (α × Repository × Volume))
    (checkout : Checkout) :
    (∃ error mishaps, (tree.command words action).on checkout = (.error error, { checkout with mishaps })) ∨
      ∃ repository base value repository' volume' mishaps, tree.repository? checkout = .ok (repository, base) ∧
        action repository base checkout.volume = .ok (value, repository', volume') ∧
        (tree.command words action).on checkout =
          (.ok value, { checkout with repository := some repository', volume := volume', mishaps }) := by
  obtain ⟨inner, steps, acts⟩ : ∃ inner : Delivering α,
      tree.command words action = Delivering.step (commandError words .interrupted) inner ∧
        ∀ checkout, (∃ error, inner.on checkout = (.error error, checkout)) ∨
          ∃ repository base value repository' volume', tree.repository? checkout = .ok (repository, base) ∧
            action repository base checkout.volume = .ok (value, repository', volume') ∧
            inner.on checkout =
              (.ok value, { checkout with repository := some repository', volume := volume' }) := by
    refine ⟨_, rfl, fun checkout => ?_⟩
    cases found : tree.repository? checkout with
    | error fault =>
      exact .inl ⟨commandError words fault, by simp [Delivering.on, ExceptT.run, found, bind, Except.bind]⟩
    | ok place =>
      obtain ⟨repository, base⟩ := place
      cases acted : action repository base checkout.volume with
      | error fault =>
        refine .inl ⟨commandError words fault, ?_⟩
        simp [Delivering.on, ExceptT.run, found, acted, bind, Except.bind]
      | ok done =>
        obtain ⟨value, repository', volume'⟩ := done
        refine .inr ⟨repository, base, value, repository', volume', rfl, acted, ?_⟩
        simp [Delivering.on, ExceptT.run, found, acted, bind, Except.bind]
  rw [steps]
  rcases Delivering.on_step _ inner checkout with same | ⟨mishaps, same | same⟩
  · rw [same]
    obtain ⟨error, failed⟩ | ⟨repository, base, value, repository', volume', found, acted, done⟩ := acts checkout
    · exact .inl ⟨error, checkout.mishaps, failed⟩
    · exact .inr ⟨repository, base, value, repository', volume', checkout.mishaps, found, acted, done⟩
  · exact .inl ⟨_, mishaps, same⟩
  · rw [same]
    obtain ⟨error, failed⟩ | ⟨repository, base, value, repository', volume', found, acted, done⟩ :=
      acts { checkout with mishaps }
    · exact .inl ⟨error, mishaps, failed⟩
    · exact .inr ⟨repository, base, value, repository', volume', mishaps, found, acted, done⟩

end DeliveryTree

end IntentRollout
