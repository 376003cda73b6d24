import IntentRollout.Proofs.ResourceDocuments

/-! A value in its place. Where a path of keys leads in a document another value can be put, and the lines of the
document are then other in one place and the same before and after it. -/

namespace IntentRollout

namespace Entries

variable {κ α : Type} [DecidableEq κ] {key : κ} {entries : List (κ × α)}

def adjust (key : κ) (change : α → α) : List (κ × α) → List (κ × α)
  | [] => []
  | entry :: rest => if entry.1 = key then (entry.1, change entry.2) :: rest else entry :: adjust key change rest

private theorem adjust_ne_nil (change : α → α) {held : α} (found : get? entries key = some held) :
    adjust key change entries ≠ [] := by
  cases entries with
  | nil => cases found
  | cons entry rest =>
    rw [adjust]
    split <;> exact List.cons_ne_nil _ _

/-- If no two entries have one key, it does not matter that the first of them is changed. -/
theorem adjust_eq_map {change : α → α} (distinct : (entries.map (·.1)).Nodup) : adjust key change entries =
    entries.map fun entry => (entry.1, if entry.1 = key then change entry.2 else entry.2) := by
  induction entries with
  | nil => rfl
  | cons entry rest ih =>
    rw [List.map_cons, List.nodup_cons] at distinct
    rw [adjust, List.map_cons]
    split
    next here =>
      have others (other : κ × α) (member : other ∈ rest) : other.1 ≠ key := by
        intro same
        exact distinct.1 (here.trans same.symm ▸ List.mem_map_of_mem member)
      have kept : rest.map (fun entry => (entry.1, if entry.1 = key then change entry.2 else entry.2)) = rest.map id :=
        List.map_congr_left fun other member => by rw [if_neg (others other member)]; rfl
      rw [kept, List.map_id]
    next => rw [ih distinct.2]

end Entries

namespace Json

/-- Puts a value where a path of keys leads; a path that leads nowhere changes nothing. -/
def put : Json → List String → Json → Json
  | _, [], value => value
  | .object members, key :: path, value =>
    .object (Entries.adjust key (fun inner => inner.put path value) members)
  | document, _ :: _, _ => document

theorem put_ofMembers (members : List (String × Json)) (key : String) (path : List String) (value : Json) :
    (ofMembers members).put (key :: path) value = ofMembers (members.map fun member =>
      (member.1, if member.1 = key then member.2.put path value else member.2)) := by
  have changed := congrArg Table.entries (Table.mapValues_ofList
    (fun name (inner : Json) => if name = key then inner.put path value else inner) members)
  rw [ofMembers, put, Entries.adjust_eq_map (Entries.nodup_keys (Entries.sorted_ofList members)), ofMembers,
    ← Entries.entries_ofList, ← Entries.entries_ofList, ← changed]
  rfl

private theorem within?_cons {document value : Json} {key : String} {path : List String} :
    document.within? (key :: path) = some value ↔ ∃ members inner, document = .object members ∧
      Entries.get? members key = some inner ∧ inner.within? path = some value := by
  rw [within?, List.foldlM_cons]
  cases document with
  | object members =>
    simp [member?, members?, Option.bind_eq_some_iff, within?]
  | _ => simp [member?, members?]

end Json

namespace Yaml

private theorem lines_object {members : List (String × Json)} (filled : members ≠ []) (indent : Nat) :
    lines indent (.object members) = memberLines indent members := by
  cases members with
  | nil => exact absurd rfl filled
  | cons => rw [lines]

private theorem memberLines_cons (indent : Nat) (name : String) (value : Json) (rest : List (String × Json)) :
    memberLines indent ((name, value) :: rest) = key name.toList ++ ':' :: memberValue indent value ++
      (if rest.isEmpty then [] else spaces indent ++ memberLines indent rest) := by
  cases rest with
  | nil => simp [memberLines]
  | cons => simp [memberLines]

/-- When a member is changed, its value alone is written in another way. -/
theorem memberLines_adjust {members : List (String × Json)} {name : String} {held : Json}
    (found : Entries.get? members name = some held) (indent : Nat) :
    ∃ front back, ∀ change, memberLines indent (Entries.adjust name change members) =
      front ++ memberValue indent (change held) ++ back := by
  induction members with
  | nil => cases found
  | cons member rest ih =>
    obtain ⟨other, value⟩ := member
    rw [Entries.get?_cons] at found
    by_cases here : other = name
    · rw [if_pos here] at found
      obtain rfl := Option.some_inj.mp found
      refine ⟨key other.toList ++ [':'], if rest.isEmpty then [] else spaces indent ++ memberLines indent rest,
        fun change => ?_⟩
      rw [Entries.adjust, if_pos here, memberLines_cons]
      simp
    · rw [if_neg here] at found
      obtain ⟨front, back, holds⟩ := ih found
      refine ⟨key other.toList ++ ':' :: memberValue indent value ++ spaces indent ++ front, back, fun change => ?_⟩
      rw [Entries.adjust, if_neg here, memberLines_cons, holds change,
        List.isEmpty_eq_false_iff.mpr (Entries.adjust_ne_nil _ found)]
      simp

private theorem hasLines_put {document held : Json} {name : String} {path : List String}
    (leads : document.within? (name :: path) = some held) (value : Json) :
    hasLines (document.put (name :: path) value) = true ∧ isList (document.put (name :: path) value) = false := by
  obtain ⟨members, inner, rfl, found, _⟩ := Json.within?_cons.mp leads
  obtain ⟨member, rest, cut⟩ := List.exists_cons_of_ne_nil (Entries.adjust_ne_nil (·.put path value) found)
  rw [Json.put, cut]
  exact ⟨rfl, rfl⟩

/-- A value without parts of its own fills one place of the lines. -/
theorem lines_put {path : List String} (below : path ≠ []) {document held : Json}
    (leads : document.within? path = some held) (indent : Nat) :
    ∃ front depth back, ∀ value, hasLines value = false →
      lines indent (document.put path value) = front ++ ended (leaf depth value) ++ back := by
  induction path generalizing document indent with
  | nil => exact absurd rfl below
  | cons name path ih =>
    obtain ⟨members, inner, rfl, found, further⟩ := Json.within?_cons.mp leads
    obtain ⟨front, back, around⟩ := memberLines_adjust found indent
    have outer (value : Json) : lines indent ((Json.object members).put (name :: path) value) =
        front ++ memberValue indent (inner.put path value) ++ back := by
      rw [Json.put, lines_object (Entries.adjust_ne_nil _ found), around]
    cases path with
    | nil =>
      refine ⟨front ++ [' '], indent + 2, back, fun value small => ?_⟩
      rw [outer, Json.put, memberValue, small]
      simp
    | cons next path =>
      obtain ⟨front', depth, back', inside⟩ := ih (List.cons_ne_nil _ _) further (indent + 2)
      refine ⟨front ++ '\n' :: spaces (indent + 2) ++ front', depth, back' ++ back, fun value small => ?_⟩
      obtain ⟨large, object⟩ := hasLines_put further value
      rw [outer, memberValue, large, object, if_pos rfl, if_neg Bool.false_ne_true]
      dsimp only
      rw [inside value small]
      simp

end Yaml

end IntentRollout
