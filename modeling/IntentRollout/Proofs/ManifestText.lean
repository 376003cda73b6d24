import IntentRollout.Bundle.Manifest
import IntentRollout.Proofs.ShapedDocuments

/-! The text of a manifest. What is written is read back as the same manifest, whatever names, counts and digests
are in it, as long as its numbers fit into 64 bits. -/

namespace IntentRollout

namespace Json

theorem tableMember?_eq {α : Type} {read? : Json → Option α} {write : α → Json}
    (inverse : ∀ value, read? (write value) = some value) {document : Json} {name : String} {table : Table String α}
    (held : document.member? name = some (.object (table.mapValues fun _ value => write value).entries)) :
    document.tableMember? read? name = some table := by
  have values (entries : List (String × α)) :
      (entries.map fun entry => (entry.1, write entry.2)).mapM
        (fun entry => (read? entry.2).map fun value => (entry.1, value)) = some entries := by
    induction entries with
    | nil => rfl
    | cons entry rest ih => simp [inverse, ih]
  rw [tableMember?, held]
  simp only [members?, Table.mapValues, Option.bind_eq_bind, Option.bind_some]
  exact Option.bind_eq_some_iff.mpr ⟨table.entries, values table.entries, congrArg some (Table.ofList_entries table)⟩

theorem listMember?_eq {α : Type} {read? : Json → Option α} {write : α → Json}
    (inverse : ∀ value, read? (write value) = some value) {document : Json} {name : String} {values : List α}
    (held : document.member? name = some (.array (values.map write))) :
    document.listMember? read? name = some values := by
  have items (values : List α) : (values.map write).mapM read? = some values := by
    induction values with
    | nil => rfl
    | cons value rest ih => simp [inverse, ih]
  rw [listMember?, held]
  exact items values

theorem text?_text (text : String) : text? (.text text) = some text := rfl

theorem listMember?_texts {document : Json} {name : String} {texts : List String}
    (held : document.member? name = some (.texts texts)) : document.listMember? text? name = some texts :=
  listMember?_eq text?_text held

theorem reads_texts (texts : List String) : Reads (.list .text) (.texts texts) := by
  refine reads_list fun item member => ?_
  obtain ⟨text, _, rfl⟩ := List.mem_map.mp member
  exact reads_text text

end Json

namespace Manifest

open Json

/-- The numbers of a manifest, as lengths of what is in memory, fit into 64 bits. -/
structure Sized (manifest : Manifest) : Prop where
  counts : ∀ entry ∈ manifest.resourceCounts.entries, entry.2 < UInt64.size
  artifacts : ∀ entry ∈ manifest.files.entries, entry.2.size < UInt64.size
  files : manifest.totals.files < UInt64.size
  sites : manifest.totals.sites < UInt64.size
  resources : manifest.totals.resources < UInt64.size

variable {manifest : Manifest}

private theorem reads_artifact {artifact : Artifact} (fits : artifact.size < UInt64.size) :
    Reads artifactSchema artifact.toJson := by
  refine reads_record _ _ ?_ (by decide)
  exact .cons ⟨rfl, reads_text _⟩ (.cons ⟨rfl, reads_natural _ fits⟩ (.cons ⟨rfl, reads_text _⟩ .nil))

private theorem reads_totals (sized : manifest.Sized) : Reads totalsSchema manifest.totals.toJson := by
  refine reads_record _ _ ?_ (by decide)
  exact .cons ⟨rfl, reads_natural _ sized.files⟩
    (.cons ⟨rfl, reads_natural _ sized.sites⟩ (.cons ⟨rfl, reads_natural _ sized.resources⟩ .nil))

private theorem reads_counts (sized : manifest.Sized) : Reads (.table (.natural "usize"))
    (.object (manifest.resourceCounts.mapValues fun _ count => .natural count).entries) := by
  refine reads_table (Table.sorted _) fun entry member => ?_
  obtain ⟨before, listed, rfl⟩ := List.mem_map.mp member
  exact reads_natural _ (sized.counts before listed)

private theorem reads_files (sized : manifest.Sized) : Reads (.table artifactSchema)
    (.object (manifest.files.mapValues fun _ artifact => artifact.toJson).entries) := by
  refine reads_table (Table.sorted _) fun entry member => ?_
  obtain ⟨before, listed, rfl⟩ := List.mem_map.mp member
  exact reads_artifact (sized.artifacts before listed)

private theorem reads_toJson (sized : manifest.Sized) : Reads schema manifest.toJson := by
  refine reads_record _ _ ?_ (by decide)
  exact .cons ⟨rfl, reads_text _⟩ (.cons ⟨rfl, reads_text _⟩ (.cons ⟨rfl, reads_text _⟩
    (.cons ⟨rfl, reads_texts _⟩ (.cons ⟨rfl, reads_counts sized⟩ (.cons ⟨rfl, reads_files sized⟩
      (.cons ⟨rfl, reads_totals sized⟩ .nil))))))

private theorem artifact?_toJson (artifact : Artifact) : artifact? artifact.toJson = some artifact := rfl

private theorem natural?_natural (value : Nat) : natural? (.natural value) = some value := rfl

private theorem ofJson?_toJson (manifest : Manifest) : ofJson? manifest.toJson = some manifest := by
  have sites : manifest.toJson.listMember? text? "targetSites" = some manifest.sites := listMember?_texts rfl
  have counts : manifest.toJson.tableMember? natural? "resourceCounts" = some manifest.resourceCounts :=
    tableMember?_eq natural?_natural rfl
  have files : manifest.toJson.tableMember? artifact? "generatedFiles" = some manifest.files :=
    tableMember?_eq artifact?_toJson rfl
  rw [ofJson?, sites, counts, files]
  rfl

/-- A manifest is read back from its text. -/
theorem read_pretty (sized : manifest.Sized) : read manifest.toJson.pretty = .ok manifest := by
  rw [read, (reads_toJson sized).read_pretty]
  simp only [bind, Except.bind, ofJson?_toJson]

end Manifest

end IntentRollout
