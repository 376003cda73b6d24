import IntentRollout.Rollout.Convergence
import Mathlib.Data.Option.Basic

/-! What a status says about a revision, and when an old revision passes for the one that was published.
Of two members that may hold it, the first that is there decides, and if it holds no text the other is
not looked at. So what would follow from the first text fails for such statuses, and for no others that
matter. -/

namespace IntentRollout.SyncState

def firstText? (body : Json) (name other : String) : Option String :=
  ((body.member? name).bind Json.text?).or ((body.member? other).bind Json.text?)

/-- A member that holds no text stands before one with this text. -/
structure Hides (body : Json) (name other text : String) : Prop where
  present : (body.member? name).isSome = true
  textless : (body.member? name).bind Json.text? = none
  hidden : (body.member? other).bind Json.text? = some text

def word (text? : Option String) : String := raised (text?.getD "")

def reason (body : Json) : String := ((body.member? "message").bind Json.text?).getD "reconciliation failed"

/-- The expected revision is reported, or there is nothing to compare and the word is that all is done. -/
def Confirms (reported : Option String) (word : String) : Option String → Prop
  | some revision => reported = some revision ∨ (reported = none ∧ word = "SYNCED")
  | none => word = "SYNCED"

/-- What the revision that is reported and the word for the state say about an expected revision. -/
structure Tells (reported : Option String) (word reason : String) (expected : Option String)
    (state : SyncState) : Prop where
  synced : state = .synced ↔ Confirms reported word expected
  failed : state ≠ .synced → word = "ERROR" ∨ word = "FAILED" → state = .failed reason
  pending : state ≠ .synced → ¬ (word = "ERROR" ∨ word = "FAILED") → state = .pending

def Shows (body : Json) (expected : Option String) (state : SyncState) : Prop :=
  Tells (statusText? body "lastAppliedRevision" "revision") (word (statusText? body "syncState" "status"))
    (reason body) expected state

def ShowsFirst (body : Json) (expected : Option String) (state : SyncState) : Prop :=
  Tells (firstText? body "lastAppliedRevision" "revision") (word (firstText? body "syncState" "status"))
    (reason body) expected state

private theorem word_none : word none = "" := by simp [word, raised]

variable {body : Json} {name other text : String} {expected : Option String}

private theorem confirms_iff {reported : Option String} {word : String}
    (apart : ¬ (reported.isSome = true ∧ reported = expected)) :
    Confirms reported word expected ↔ word = "SYNCED" ∧ (reported = none ∨ expected = none) := by
  cases expected <;> cases reported <;> simp_all [Confirms]

private theorem shows_ofStatus (body : Json) (expected : Option String) :
    Shows body expected (ofStatus body expected) := by
  unfold ofStatus Shows
  dsimp only
  rw [← word, ← reason]
  generalize statusText? body "lastAppliedRevision" "revision" = applied
  generalize word (statusText? body "syncState" "status") = word
  by_cases same : applied.isSome = true ∧ applied = expected
  · obtain ⟨revision, rfl⟩ := Option.isSome_iff_exists.mp same.1
    obtain rfl := same.2
    rw [if_pos (by simp)]
    exact ⟨iff_of_true rfl (.inl rfl), fun other => absurd rfl other, fun other => absurd rfl other⟩
  · rw [if_neg (by simpa using same)]
    by_cases bad : word = "ERROR" ∨ word = "FAILED"
    · have undone : ¬ Confirms applied word expected := by
        rw [confirms_iff same]
        rintro ⟨rfl, _⟩
        simp at bad
      rw [if_pos (by simpa using bad)]
      exact ⟨iff_of_false SyncState.noConfusion undone, fun _ _ => rfl, fun _ good => absurd bad good⟩
    · rw [if_neg (by simpa using bad)]
      by_cases done : word = "SYNCED" ∧ (applied = none ∨ expected = none)
      · rw [if_pos (by simpa using done)]
        exact ⟨iff_of_true rfl ((confirms_iff same).mpr done), fun other => absurd rfl other,
          fun other => absurd rfl other⟩
      · rw [if_neg (by simpa using done)]
        exact ⟨iff_of_false SyncState.noConfusion (mt (confirms_iff same).mp done),
          fun _ failed => absurd failed bad, fun _ _ => rfl⟩

/-- A text is not seen where it is hidden, and only there. -/
theorem hides_iff : Hides body name other text ↔
    statusText? body name other = none ∧ firstText? body name other = some text := by
  rw [statusText?, firstText?]
  constructor
  · rintro ⟨present, textless, hidden⟩
    obtain ⟨value, found⟩ := Option.isSome_iff_exists.mp present
    rw [textless, hidden, found]
    rw [found, Option.bind_some] at textless
    exact ⟨textless, rfl⟩
  · rintro ⟨unseen, first⟩
    cases found : body.member? name with
    | none =>
      rw [found] at unseen first
      cases unseen.symm.trans first
    | some value =>
      rw [found] at unseen first
      have textless : value.text? = none := unseen
      rw [Option.bind_some, textless, Option.none_or] at first
      exact ⟨by rw [found]; rfl, by rw [found]; exact unseen, first⟩

private theorem firstText?_of_statusText? (seen : statusText? body name other = some text) :
    firstText? body name other = some text := by
  rw [statusText?] at seen
  rw [firstText?]
  cases found : body.member? name with
  | none =>
    rw [found] at seen
    exact seen
  | some value =>
    rw [found] at seen
    have held : value.text? = some text := seen
    rw [Option.bind_some, held, Option.some_or]

private theorem statusText?_eq_firstText? (unhidden : ∀ text, ¬ Hides body name other text) :
    statusText? body name other = firstText? body name other := by
  cases seen : statusText? body name other with
  | some text => exact (firstText?_of_statusText? seen).symm
  | none =>
    cases first : firstText? body name other with
    | none => rfl
    | some text => exact absurd (hides_iff.mpr ⟨seen, first⟩) (unhidden text)

/-- Words that say nothing are alike. -/
theorem Tells.of_idle {reported : Option String} {word word' reason : String} {state : SyncState}
    (tells : Tells reported word reason expected state) (idle : word ∉ ["SYNCED", "ERROR", "FAILED"])
    (idle' : word' ∉ ["SYNCED", "ERROR", "FAILED"]) : Tells reported word' reason expected state := by
  have alike : Confirms reported word expected ↔ Confirms reported word' expected := by
    simp only [List.mem_cons, List.not_mem_nil, or_false, not_or] at idle idle'
    cases expected <;> simp [Confirms, idle.1, idle'.1]
  simp only [List.mem_cons, List.not_mem_nil, or_false, not_or] at idle idle'
  exact ⟨tells.synced.trans alike, fun _ bad => absurd bad (by simp [idle'.2]),
    fun undone _ => tells.pending undone (by simp [idle.2])⟩

/-- Where no text is hidden that matters, the texts that are there decide. -/
theorem showsFirst_of_unhidden (unhidden : ∀ text, ¬ Hides body "lastAppliedRevision" "revision" text)
    (idle : ∀ text, Hides body "syncState" "status" text → raised text ∉ ["SYNCED", "ERROR", "FAILED"])
    (expected : Option String) : ShowsFirst body expected (ofStatus body expected) := by
  have shows := shows_ofStatus body expected
  rw [Shows, statusText?_eq_firstText? unhidden] at shows
  by_cases hidden : ∃ text, Hides body "syncState" "status" text
  · obtain ⟨text, hides⟩ := hidden
    obtain ⟨unseen, first⟩ := hides_iff.mp hides
    rw [unseen] at shows
    rw [ShowsFirst, first]
    exact shows.of_idle (by rw [word_none]; decide) (idle text hides)
  · rw [statusText?_eq_firstText? (not_exists.mp hidden)] at shows
    exact shows

/-- A hidden revision is not found where it is expected, or else any other passes for it. -/
theorem unhidden_of_showsFirst (first : ∀ expected, ShowsFirst body expected (ofStatus body expected))
    (text : String) : ¬ Hides body "lastAppliedRevision" "revision" text := by
  intro hides
  obtain ⟨unseen, reported⟩ := hides_iff.mp hides
  have done : word (statusText? body "syncState" "status") = "SYNCED" := by
    have shows := (shows_ofStatus body (some text)).synced.mp ((first (some text)).synced.mpr (.inl reported))
    rw [unseen] at shows
    exact (shows.resolve_left (Option.some_ne_none text).symm).2
  have different : text ++ "+" ≠ text := fun same => by simpa using congrArg String.length same
  have passes := (shows_ofStatus body (some (text ++ "+"))).synced.mpr (.inr ⟨unseen, done⟩)
  have confirmed := (first (some (text ++ "+"))).synced.mp passes
  rw [reported] at confirmed
  rcases confirmed with same | ⟨none, _⟩
  · exact different (Option.some_inj.mp same).symm
  · cases none

/-- A hidden word for the state is missed. -/
theorem idle_of_showsFirst (first : ∀ expected, ShowsFirst body expected (ofStatus body expected))
    (hides : Hides body "syncState" "status" text) : raised text ∉ ["SYNCED", "ERROR", "FAILED"] := by
  obtain ⟨unseen, told⟩ := hides_iff.mp hides
  have shows := shows_ofStatus body none
  have first := first none
  rw [Shows, unseen, word_none] at shows
  rw [ShowsFirst, told] at first
  have undone : ofStatus body none ≠ .synced := fun done => by
    have empty : "" = "SYNCED" := shows.synced.mp done
    simp at empty
  have pending := shows.pending undone (by simp)
  intro member
  simp only [List.mem_cons, List.not_mem_nil, or_false] at member
  rcases member with done | bad
  · exact undone (first.synced.mpr done)
  · cases pending.symm.trans (first.failed undone bad)

/-- What a status says. The members that are there always decide; the texts that are there decide
for every expected revision unless a text is hidden that matters; and a revision other than the one that is
expected passes for it where it is hidden and the word is that all is done, and nowhere else. -/
theorem revision_told (body : Json) :
    (∀ expected, Shows body expected (ofStatus body expected)) ∧
    ((∀ expected, ShowsFirst body expected (ofStatus body expected)) ↔
      (∀ text, ¬ Hides body "lastAppliedRevision" "revision" text) ∧
        ∀ text, Hides body "syncState" "status" text → raised text ∉ ["SYNCED", "ERROR", "FAILED"]) ∧
    ∀ stale revision, stale ≠ revision →
      (firstText? body "lastAppliedRevision" "revision" = some stale ∧
          ofStatus body (some revision) = .synced ↔
        Hides body "lastAppliedRevision" "revision" stale ∧
          word (statusText? body "syncState" "status") = "SYNCED") := by
  refine ⟨shows_ofStatus body, ⟨fun first => ⟨unhidden_of_showsFirst first, fun _ => idle_of_showsFirst first⟩,
    fun ⟨unhidden, idle⟩ => showsFirst_of_unhidden unhidden idle⟩, fun stale revision other => ?_⟩
  constructor
  · rintro ⟨first, passes⟩
    rcases (shows_ofStatus body (some revision)).synced.mp passes with seen | ⟨unseen, done⟩
    · exact absurd (Option.some_inj.mp (first.symm.trans (firstText?_of_statusText? seen))) other
    · exact ⟨hides_iff.mpr ⟨unseen, first⟩, done⟩
  · rintro ⟨hides, done⟩
    obtain ⟨unseen, first⟩ := hides_iff.mp hides
    exact ⟨first, (shows_ofStatus body (some revision)).synced.mpr (.inr ⟨unseen, done⟩)⟩

def forgotten : Json :=
  .object [("lastAppliedRevision", .null), ("revision", .text "old"), ("syncState", .text "SYNCED")]

/-- An old revision passes for the one that is expected. -/
theorem forgotten_synced :
    firstText? forgotten "lastAppliedRevision" "revision" = some "old" ∧
      ofStatus forgotten (some "new") = .synced ∧
      ¬ ShowsFirst forgotten (some "new") (ofStatus forgotten (some "new")) := by
  have first : firstText? forgotten "lastAppliedRevision" "revision" = some "old" := by decide
  have passes : ofStatus forgotten (some "new") = .synced := by decide +kernel
  refine ⟨first, passes, fun shows => ?_⟩
  have confirmed := shows.synced.mp passes
  rw [first] at confirmed
  simp [Confirms] at confirmed

end IntentRollout.SyncState
