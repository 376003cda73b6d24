import IntentRollout.Proofs.PhaseRequests

/-! Being told to stop. An attempt learns that it should from four kinds of answers, and the first of them
is the last that it hears: nothing is asked after it, and the attempt ends as it was told. -/

namespace IntentRollout

theorem split_first {α : Type} {first second earlier later : List α} {item : α}
    (split : first ++ second = earlier ++ item :: later) (absent : item ∉ second) :
    ∃ rest, first = earlier ++ item :: rest ∧ later = rest ++ second := by
  rcases List.append_eq_append_iff.mp split with ⟨between, rfl, rfl⟩ | ⟨between, rfl, same⟩
  · simp at absent
  · cases between with
    | nil =>
      rw [List.nil_append] at same
      simp [← same] at absent
    | cons head rest =>
      cases same
      exact ⟨rest, rfl, rfl⟩

def Exchange.halt? : Exchange → Option Halt
  | ⟨.shutdown, ⟨true, _⟩⟩ => some .cancelled
  | ⟨.wait _, ⟨true, _⟩⟩ => some .cancelled
  | ⟨.fetch _, ⟨none, _⟩⟩ => some .cancelled
  | ⟨.confirm _, ⟨false, _⟩⟩ => some .declined
  | _ => none

def Undisturbed (trace : List Exchange) : Prop := ∀ exchange ∈ trace, exchange.halt? = none

/-- Exchanges of work that stops when it is told to, and for no other reason than that or a failure. -/
inductive Heeds {α : Type} : List Exchange → Except Halt α → Prop where
  | onward {trace value} (free : Undisturbed trace) : Heeds trace (.ok value)
  | failed {trace phase error} (free : Undisturbed trace) : Heeds trace (.error (.failed phase error))
  | told {earlier exchange halt} (free : Undisturbed earlier) (told : exchange.halt? = some halt) :
      Heeds (earlier ++ [exchange]) (.error halt)

variable {α β : Type} {trace first rest : List Exchange}

theorem Undisturbed.append (earlier : Undisturbed first) (later : Undisturbed rest) :
    Undisturbed (first ++ rest) := fun exchange member =>
  (List.mem_append.mp member).elim (earlier exchange) (later exchange)

theorem Undisturbed.left (quiet : Undisturbed (first ++ rest)) : Undisturbed first :=
  fun exchange member => quiet exchange (List.mem_append_left _ member)

theorem Undisturbed.right (quiet : Undisturbed (first ++ rest)) : Undisturbed rest :=
  fun exchange member => quiet exchange (List.mem_append_right _ member)

namespace Heeds

private theorem undisturbed {value : α} (heeds : Heeds trace (.ok value)) : Undisturbed trace := by
  cases heeds with
  | onward free => exact free

theorem after {result : Except Halt α} (later : Heeds rest result) (earlier : Undisturbed first) :
    Heeds (first ++ rest) result := by
  cases later with
  | onward free => exact .onward (earlier.append free)
  | failed free => exact .failed (earlier.append free)
  | told free told =>
    rw [← List.append_assoc]
    exact .told (earlier.append free) told

theorem error {halt : Halt} (heeds : Heeds trace (.error halt : Except Halt α)) :
    Heeds trace (.error halt : Except Halt β) := by
  cases heeds with
  | failed free => exact .failed free
  | told free told => exact .told free told

/-- Nothing follows what tells to stop. -/
theorem last {result : Except Halt α} (heeds : Heeds trace result) {earlier later : List Exchange}
    {exchange : Exchange} {halt : Halt} (split : trace = earlier ++ exchange :: later)
    (told : exchange.halt? = some halt) : later = [] ∧ result = .error halt := by
  have disturbed (free : Undisturbed trace) : False := by
    have untold := free exchange (by simp [split])
    rw [told] at untold
    cases untold
  cases heeds with
  | onward free | failed free => exact (disturbed free).elim
  | @told before last halt' free told' =>
    rcases List.eq_nil_or_concat later with rfl | ⟨front, final, rfl⟩
    · obtain ⟨-, same⟩ := List.append_inj' split rfl
      obtain rfl := List.singleton_inj.mp same
      rw [told] at told'
      cases told'
      exact ⟨rfl, rfl⟩
    · have shifted : before ++ [last] = (earlier ++ exchange :: front) ++ [final] := by
        simpa using split
      obtain ⟨rfl, -⟩ := List.append_inj' shifted rfl
      have untold := free exchange (by simp)
      rw [told] at untold
      cases untold

theorem earlier {result : Except Halt α} (heeds : Heeds trace result) {earlier later : List Exchange}
    {exchange : Exchange} (split : trace = earlier ++ exchange :: later) : Undisturbed earlier := by
  intro member inside
  obtain ⟨before, between, rfl⟩ := List.append_of_mem inside
  cases told : member.halt? with
  | none => rfl
  | some halt =>
    have final := heeds.last (by rw [split, List.append_assoc, List.cons_append]) told
    simp at final

end Heeds

private theorem Tried.undisturbed {exchange : Timed (Except DeliveryError α) → Exchange} {left : Nat}
    {result : Except DeliveryError α} (tried : Tried exchange left trace result)
    (deaf : ∀ reply, (exchange reply).halt? = none) : Undisturbed trace := by
  intro member inside
  obtain ⟨reply, rfl⟩ | ⟨milliseconds, reply, rfl⟩ := tried.members member inside
  · exact deaf reply
  · rfl

theorem Entered.heeds {rollout : Rollout} {phase : Phase} {result : Except Halt Unit}
    (entered : Entered rollout phase trace result) : Heeds trace result := by
  cases entered with
  | interrupted => exact @Heeds.told _ [] _ _ (by simp [Undisturbed]) rfl
  | refused => exact @Heeds.told _ [_] _ _ (by simp [Undisturbed, Exchange.halt?]) rfl
  | withdrawn => exact @Heeds.told _ [_, _] _ _ (by simp [Undisturbed, Exchange.halt?]) rfl
  | free | agreed => exact .onward (by simp [Undisturbed, Exchange.halt?])

theorem Polled.heeds {target : String} {revision : Option String} {convergence : Convergence}
    (polled : Polled target revision trace convergence) :
    (convergence = .cancelled ∧ Heeds trace (.error .cancelled : Except Halt Unit)) ∨
      (convergence ≠ .cancelled ∧ Undisturbed trace) := by
  induction polled with
  | synced | failed | expired | exhausted =>
    exact .inr ⟨by simp, by simp [Undisturbed, Exchange.halt?]⟩
  | interrupted =>
    exact .inl ⟨rfl, @Heeds.told _ [_] _ _ (by simp [Undisturbed, Exchange.halt?]) rfl⟩
  | @again reply milliseconds time _ _ _ _ ih =>
    have asked : Undisturbed [⟨.status target revision, reply⟩, ⟨.wait milliseconds, ⟨false, time⟩⟩] := by
      simp [Undisturbed, Exchange.halt?]
    rcases ih with ⟨interrupted, heeds⟩ | ⟨uninterrupted, free⟩
    · exact .inl ⟨interrupted, heeds.after asked⟩
    · exact .inr ⟨uninterrupted, asked.append free⟩

theorem Awaited.heeds {watched : Bool} {target : String} {revision : Option String}
    {settings : VerifySettings} {convergence : Convergence}
    (awaited : Awaited watched target revision settings trace convergence) :
    (convergence = .cancelled ∧ Heeds trace (.error .cancelled : Except Halt Unit)) ∨
      (convergence ≠ .cancelled ∧ Undisturbed trace) := by
  cases awaited with
  | elapsed => exact .inr ⟨by simp, by simp [Undisturbed, Exchange.halt?]⟩
  | interrupted => exact .inl ⟨rfl, @Heeds.told _ [] _ _ (by simp [Undisturbed]) rfl⟩
  | polled _ polled => exact polled.heeds

namespace Attempt

variable {rollout : Rollout} {started : Instant} {before after : Standing}

theorem Snapshotting.heeds {result : Except Halt Unit}
    (snapshotting : Snapshotting rollout before trace result after) : Heeds trace result := by
  cases snapshotting with
  | halted entered => exact entered.heeds
  | refused entered tried =>
    exact (Heeds.failed (tried.undisturbed fun _ => rfl)).after entered.heeds.undisturbed
  | taken entered tried =>
    exact (Heeds.onward (tried.undisturbed fun _ => rfl)).after entered.heeds.undisturbed

private theorem Provided.undisturbed {source : IntentSource} {document : Json}
    (provided : Provided source trace document) : Undisturbed trace := by
  cases provided <;> simp [Undisturbed, Exchange.halt?]

theorem Validating.heeds {source : IntentSource} {requested : List String}
    {result : Except Halt (Intent × List String × Gate)}
    (validating : Validating rollout source requested before trace result after) :
    Heeds trace result := by
  cases validating with
  | halted entered => exact entered.heeds.error
  | unreadable entered _ =>
    exact (Heeds.failed (by simp [Undisturbed, Exchange.halt?])).after entered.heeds.undisturbed
  | malformed entered provided | refused entered provided =>
    exact (Heeds.failed provided.undisturbed).after entered.heeds.undisturbed
  | accepted entered provided =>
    exact (Heeds.onward provided.undisturbed).after entered.heeds.undisturbed

theorem Rendering.heeds {intent : Intent} {targets : List String} {result : Except Halt Compilation}
    (rendering : Rendering rollout started intent targets before trace result after) :
    Heeds trace result := by
  cases rendering with
  | halted entered => exact entered.heeds.error
  | refused entered => exact .failed entered.heeds.undisturbed
  | compiled entered => exact .onward entered.heeds.undisturbed

theorem Publishing.heeds {intent : Intent} {compilation : Compilation} {target : String}
    {result : Except Halt (Option String)}
    (publishing : Publishing rollout started intent compilation target before trace result after) :
    Heeds trace result := by
  cases publishing with
  | halted entered => exact entered.heeds.error
  | rehearsed entered => exact .onward entered.heeds.undisturbed
  | refused entered _ tried =>
    exact (Heeds.failed (tried.undisturbed fun _ => rfl)).after entered.heeds.undisturbed
  | published entered _ tried =>
    exact (Heeds.onward (tried.undisturbed fun _ => rfl)).after entered.heeds.undisturbed

theorem Verifying.heeds {target : String} {revision : Option String} {result : Except Halt Unit}
    (verifying : Verifying rollout target revision before trace result after) :
    Heeds trace result := by
  cases verifying with
  | halted entered => exact entered.heeds
  | rehearsed entered => exact .onward entered.heeds.undisturbed
  | converged entered _ awaited success =>
    rcases awaited.heeds with ⟨rfl, _⟩ | ⟨_, free⟩
    · cases success
    · exact (Heeds.onward free).after entered.heeds.undisturbed
  | interrupted entered _ awaited =>
    rcases awaited.heeds with ⟨_, heeds⟩ | ⟨uninterrupted, _⟩
    · exact heeds.after entered.heeds.undisturbed
    · exact absurd rfl uninterrupted
  | diverged entered _ awaited uninterrupted =>
    rcases awaited.heeds with ⟨interrupted, _⟩ | ⟨_, free⟩
    · exact absurd interrupted uninterrupted
    · exact (Heeds.failed free).after entered.heeds.undisturbed

theorem Gating.heeds {objectives : Gate} {target : String} {result : Except Halt Unit}
    (gating : Gating rollout objectives target before trace result after) : Heeds trace result := by
  cases gating with
  | halted entered => exact entered.heeds
  | rehearsed entered => exact .onward entered.heeds.undisturbed
  | interrupted entered _ =>
    exact (@Heeds.told _ [] _ _ (by simp [Undisturbed]) rfl).after entered.heeds.undisturbed
  | passed entered _ _ =>
    exact (Heeds.onward (by simp [Undisturbed, Exchange.halt?])).after entered.heeds.undisturbed
  | violated entered _ _ | unclear entered _ _ _ =>
    exact (Heeds.failed (by simp [Undisturbed, Exchange.halt?])).after entered.heeds.undisturbed

theorem Serving.heeds {intent : Intent} {compilation : Compilation} {objectives : Gate}
    {target : String} {result : Except Halt Unit}
    (serving : Serving rollout started intent compilation objectives target before trace result after) :
    Heeds trace result := by
  cases serving with
  | unpublished publishing => exact publishing.heeds.error
  | unverified publishing verifying => exact verifying.heeds.after publishing.heeds.undisturbed
  | gated publishing verifying gating =>
    exact (gating.heeds.after verifying.heeds.undisturbed).after publishing.heeds.undisturbed

theorem ServingAll.heeds {intent : Intent} {compilation : Compilation} {objectives : Gate}
    {targets : List String} {result : Except Halt Unit}
    (serving : ServingAll rollout started intent compilation objectives targets before trace result after) :
    Heeds trace result := by
  induction serving with
  | done => exact .onward (by simp [Undisturbed])
  | stopped serving => exact serving.heeds
  | passed serving _ ih => exact ih.after serving.heeds.undisturbed

theorem Driving.heeds {source : IntentSource} {requested : List String} {result : Except Halt Unit}
    (driving : Driving rollout started source requested before trace result after) :
    Heeds trace result := by
  cases driving with
  | unremembered snapshotting => exact snapshotting.heeds
  | invalid snapshotting validating => exact validating.heeds.error.after snapshotting.heeds.undisturbed
  | unrendered snapshotting validating rendering =>
    exact (rendering.heeds.error.after validating.heeds.undisturbed).after
      snapshotting.heeds.undisturbed
  | served snapshotting validating rendering serving =>
    exact ((serving.heeds.after rendering.heeds.undisturbed).after validating.heeds.undisturbed).after
      snapshotting.heeds.undisturbed

end Attempt

end IntentRollout
