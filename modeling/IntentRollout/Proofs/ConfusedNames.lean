import IntentRollout.Proofs.SafeNames
import Mathlib.Data.List.Lattice
import Mathlib.Data.List.Pairwise

/-! Which resources share a name. A name joins an identifier and the name of a site with a hyphen, which both of them
may contain, and starts with a word with which an identifier may start, too. So a name does not tell what it is made
of; but it is known which names are the same, and for which compilations all of them are different. -/

namespace IntentRollout

/-- A piece that is in front of the site stands behind the identifier in the other pair. -/
def Moved (id site id' site' : String) : Prop := ∃ piece, id' = id ++ "-" ++ piece ∧ site = piece ++ "-" ++ site'

/-- Pairs of an identifier and a site that become one text when they are joined by a hyphen. -/
def Joined (id site id' site' : String) : Prop :=
  (id = id' ∧ site = site') ∨ Moved id site id' site' ∨ Moved id' site' id site

section Joining

variable {id site id' site' word : String}

private theorem joined_of_longer {more : List Char} (longer : id'.toList = id.toList ++ more)
    (rest : '-' :: site.toList = more ++ '-' :: site'.toList) : (id = id' ∧ site = site') ∨ Moved id site id' site' := by
  cases more with
  | nil =>
    rw [List.append_nil] at longer
    exact .inl ⟨String.toList_injective longer.symm, String.toList_injective (List.cons.inj rest).2⟩
  | cons hyphen piece =>
    obtain ⟨rfl, behind⟩ := List.cons.inj rest
    refine .inr ⟨String.ofList piece, String.toList_injective ?_, String.toList_injective ?_⟩
    · simp [longer]
    · simpa using behind

theorem Moved.eq (moved : Moved id site id' site') : id ++ "-" ++ site = id' ++ "-" ++ site' := by
  obtain ⟨piece, rfl, rfl⟩ := moved
  simp only [String.append_assoc]

/-- Of the hyphens of two joined texts one comes first, and what is between them has moved. -/
theorem joined_iff : id ++ "-" ++ site = id' ++ "-" ++ site' ↔ Joined id site id' site' := by
  constructor
  · intro same
    have texts : id.toList ++ '-' :: site.toList = id'.toList ++ '-' :: site'.toList := by
      simpa using congrArg String.toList same
    obtain ⟨more, longer, rest⟩ | ⟨more, longer, rest⟩ := List.append_eq_append_iff.mp texts
    · exact (joined_of_longer longer rest).imp_right .inl
    · obtain ⟨rfl, rfl⟩ | moved := joined_of_longer longer rest
      · exact .inl ⟨rfl, rfl⟩
      · exact .inr (.inr moved)
  · rintro (⟨rfl, rfl⟩ | moved | moved)
    · rfl
    · exact moved.eq
    · exact moved.eq.symm

private theorem Joined.comm : Joined id site id' site' ↔ Joined id' site' id site := by
  rw [← joined_iff, ← joined_iff, eq_comm]

inductive Echoes (word : String) : String → Prop where
  | once : Echoes word word
  | again {rest : String} (echoes : Echoes word rest) : Echoes word (word ++ "-" ++ rest)

private theorem Echoes.commutes {text : String} (echoes : Echoes word text) :
    word ++ "-" ++ text = text ++ "-" ++ word := by
  induction echoes with
  | once => rfl
  | @again rest _ ih =>
    calc word ++ "-" ++ (word ++ "-" ++ rest) = word ++ "-" ++ (rest ++ "-" ++ word) := by rw [ih]
      _ = word ++ "-" ++ rest ++ "-" ++ word := by simp only [String.append_assoc]

/-- A word in front of a joined text is the beginning of another with the same identifier only if that is
nothing but this word. -/
theorem echoes_iff (single : '-' ∉ word.toList) :
    id ++ "-" ++ site = word ++ "-" ++ (id ++ "-" ++ site') ↔ Echoes word id ∧ site = word ++ "-" ++ site' := by
  constructor
  · intro same
    induction size : id.length using Nat.strongRecOn generalizing id with
    | ind length ih =>
      rcases joined_iff.mp same with ⟨rfl, rest⟩ | ⟨piece, longer, _⟩ | ⟨piece, rfl, rest⟩
      · exact ⟨.once, rest⟩
      · exact absurd (by simp [longer]) single
      · have shorter : piece.length < length := by
          rw [← size, String.length_append, String.length_append]
          have hyphen : "-".length = 1 := rfl
          omega
        have next : piece ++ "-" ++ site = word ++ "-" ++ (piece ++ "-" ++ site') := by
          rw [← rest]
          simp only [String.append_assoc]
        obtain ⟨echoes, ends⟩ := ih _ shorter next rfl
        exact ⟨.again echoes, ends⟩
  · rintro ⟨echoes, rfl⟩
    calc id ++ "-" ++ (word ++ "-" ++ site') = id ++ "-" ++ word ++ "-" ++ site' := by simp only [String.append_assoc]
      _ = word ++ "-" ++ id ++ "-" ++ site' := by rw [echoes.commutes]
      _ = word ++ "-" ++ (id ++ "-" ++ site') := by simp only [String.append_assoc]

end Joining

namespace ResourceKind

def word : ResourceKind → String
  | .provisioningRequest => ""
  | .configMap => "intent"
  | .networkSlice => "slice"
  | .kustomization => "kustomization"

variable {kind kind' : ResourceKind}

private theorem single_word (kind : ResourceKind) : '-' ∉ kind.word.toList := by
  cases kind <;> decide

private theorem resourceName_marked (marked : kind ≠ .provisioningRequest) (id site : String) :
    kind.resourceName id site = kind.word ++ "-" ++ id ++ "-" ++ site := by
  have start : kind.start = kind.word ++ "-" := by
    cases kind with
    | provisioningRequest => exact absurd rfl marked
    | configMap | networkSlice | kustomization => decide
  rw [resourceName_eq, start]

private theorem resourceName_bare (id site : String) :
    provisioningRequest.resourceName id site = id ++ "-" ++ site := rfl

/-- Names with words tell their kinds. -/
theorem kind_of_word (marked : kind ≠ .provisioningRequest) (marked' : kind' ≠ .provisioningRequest)
    (rest rest' : String) (same : kind.word ++ "-" ++ rest = kind'.word ++ "-" ++ rest') : kind = kind' := by
  have head (kind : ResourceKind) (marked : kind ≠ .provisioningRequest) (rest : String) :
      (kind.word ++ "-" ++ rest).toList.head? = kind.word.toList.head? := by
    cases kind with
    | provisioningRequest => exact absurd rfl marked
    | configMap | networkSlice | kustomization => simp [word]
  have heads : kind.word.toList.head? = kind'.word.toList.head? := by
    rw [← head kind marked rest, same, head kind' marked']
  revert heads
  cases kind <;> cases kind' <;> decide

private theorem joined_cancel {word id site id' site' : String} :
    word ++ id ++ "-" ++ site = word ++ id' ++ "-" ++ site' ↔ Joined id site id' site' := by
  rw [← joined_iff]
  constructor
  · intro same
    apply String.toList_injective
    simpa using congrArg String.toList same
  · intro same
    calc word ++ id ++ "-" ++ site = word ++ (id ++ "-" ++ site) := by simp only [String.append_assoc]
      _ = word ++ (id' ++ "-" ++ site') := by rw [same]
      _ = word ++ id' ++ "-" ++ site' := by simp only [String.append_assoc]

/-- Resources that share a name. Those of one kind are joined alike; of two kinds, one has no word, but has
that of the other at the beginning of its identifier. -/
inductive Confused : ResourceKind → String → String → ResourceKind → String → String → Prop where
  | alike {kind : ResourceKind} {id site id' site' : String} (joined : Joined id site id' site') :
      Confused kind id site kind id' site'
  | bare {kind : ResourceKind} {id site id' site' : String} (marked : kind ≠ .provisioningRequest)
      (joined : Joined id site (kind.word ++ "-" ++ id') site') : Confused .provisioningRequest id site kind id' site'
  | marked {kind : ResourceKind} {id site id' site' : String} (marked : kind ≠ .provisioningRequest)
      (joined : Joined (kind.word ++ "-" ++ id) site id' site') : Confused kind id site .provisioningRequest id' site'

private theorem confused_iff {id site id' site' : String} : Confused kind id site kind' id' site' ↔
    kind.resourceName id site = kind'.resourceName id' site' := by
  constructor
  · rintro (joined | ⟨marked, joined⟩ | ⟨marked, joined⟩)
    · rw [resourceName_eq, resourceName_eq, joined_cancel]
      exact joined
    · rw [resourceName_bare, resourceName_marked marked, joined_iff]
      exact joined
    · rw [resourceName_bare, resourceName_marked marked, joined_iff]
      exact joined
  · intro same
    by_cases kinds : kind = kind'
    · subst kinds
      rw [resourceName_eq, resourceName_eq, joined_cancel] at same
      exact .alike same
    · by_cases bare : kind = .provisioningRequest
      · subst bare
        rw [resourceName_bare, resourceName_marked (Ne.symm kinds), joined_iff] at same
        exact .bare (Ne.symm kinds) same
      · by_cases bare' : kind' = .provisioningRequest
        · subst bare'
          rw [resourceName_bare, resourceName_marked bare, joined_iff] at same
          exact .marked bare same
        · rw [resourceName_marked bare, resourceName_marked bare'] at same
          refine absurd (kind_of_word bare bare' (id ++ "-" ++ site) (id' ++ "-" ++ site') ?_) kinds
          simpa only [String.append_assoc] using same

/-- For one intent, two names are the same only if the identifier is nothing but the word of a kind, and the
name of one site is that of the other with this word in front. -/
theorem resourceName_same_id {id site site' : String} : kind.resourceName id site = kind'.resourceName id site' ↔
    (kind = kind' ∧ site = site') ∨
    (kind = .provisioningRequest ∧ kind' ≠ .provisioningRequest ∧
      Echoes kind'.word id ∧ site = kind'.word ++ "-" ++ site') ∨
    (kind ≠ .provisioningRequest ∧ kind' = .provisioningRequest ∧
      Echoes kind.word id ∧ site' = kind.word ++ "-" ++ site) := by
  have joined (word site site' : String) : Joined id site (word ++ "-" ++ id) site' ↔
      id ++ "-" ++ site = word ++ "-" ++ (id ++ "-" ++ site') := by
    rw [← joined_iff]
    simp only [String.append_assoc]
  rw [← confused_iff]
  constructor
  · rintro (alone | ⟨marked, moved⟩ | ⟨marked, moved⟩)
    · rw [← joined_iff] at alone
      exact .inl ⟨rfl, String.toList_injective (by simpa using congrArg String.toList alone)⟩
    · rw [joined, echoes_iff kind'.single_word] at moved
      exact .inr (.inl ⟨rfl, marked, moved⟩)
    · rw [Joined.comm, joined, echoes_iff kind.single_word] at moved
      exact .inr (.inr ⟨marked, rfl, moved⟩)
  · rintro (⟨rfl, rfl⟩ | ⟨rfl, marked, echoed⟩ | ⟨marked, rfl, echoed⟩)
    · exact .alike (.inl ⟨rfl, rfl⟩)
    · refine .bare marked ?_
      rw [joined, echoes_iff kind'.single_word]
      exact echoed
    · refine .marked marked ?_
      rw [Joined.comm, joined, echoes_iff kind.single_word]
      exact echoed

end ResourceKind

namespace Compilation

def resourceNames (compilation : Compilation) : List String :=
  compilation.bundles.entries.flatMap fun entry => entry.2.resources.map (·.name)

/-- No site is called like another one with the word of one of its resources in front, when the intent is
called by this word. -/
def Unechoed (compilation : Compilation) (id : String) : Prop :=
  ∀ entry ∈ compilation.bundles.entries, ∀ resource ∈ entry.2.resources, resource.kind ≠ .provisioningRequest →
    Echoes resource.kind.word id → resource.kind.word ++ "-" ++ entry.1 ∉ compilation.sites

variable {compilation : Compilation} {intent : Intent}

private theorem MadeFor.nodup_resourceNames (made : compilation.MadeFor intent) :
    compilation.resourceNames.Nodup ↔ compilation.Unechoed intent.id := by
  constructor
  · intro distinct entry member resource listed marked echoes among
    obtain ⟨other, member', named⟩ := List.mem_map.mp among
    obtain ⟨request, bundle, about, site⟩ := made other member'
    have first : request.provisioningRequest ∈ other.2.resources := by
      rw [← bundle]
      exact List.mem_cons_self
    have differ : entry ≠ other := by
      rintro rfl
      have longer := congrArg String.length named
      have hyphen : "-".length = 1 := rfl
      rw [String.length_append, String.length_append] at longer
      omega
    have alike : request.provisioningRequest.name = resource.name := by
      rw [made.named member' first, made.named member listed]
      exact ResourceKind.resourceName_same_id.mpr (.inr (.inl ⟨rfl, marked, echoes, named⟩))
    have symm : Std.Symm (Function.onFun List.Disjoint fun entry : String × Bundle => entry.2.resources.map (·.name)) :=
      ⟨fun _ _ => List.Disjoint.symm⟩
    have apart := (List.nodup_flatMap.mp distinct).2.forall member member' differ
    exact apart (List.mem_map_of_mem listed) (alike ▸ List.mem_map_of_mem first)
  · intro unechoed
    refine made.nodup_keys (fun _ resource => resource.name) ?_
    intro entry member first listed other member' second listed' alike
    have sited : entry.1 ∈ compilation.sites := List.mem_map_of_mem member
    have sited' : other.1 ∈ compilation.sites := List.mem_map_of_mem member'
    rw [made.named member listed, made.named member' listed', ResourceKind.resourceName_same_id] at alike
    obtain ⟨kinds, sites⟩ | ⟨_, marked, echoes, site⟩ | ⟨marked, _, echoes, site⟩ := alike
    · exact ⟨sites, kinds⟩
    · exact absurd (site ▸ sited) (unechoed other member' second listed' marked echoes)
    · exact absurd (site ▸ sited') (unechoed entry member first listed marked echoes)

end Compilation

namespace Config

variable {config : Config} {instant : Instant} {intent : Intent} {compilation : Compilation}

/-- Names do not tell what they are made of; which of them are the same is told by `Confused`. A compilation has
different names for all its resources just if its intent is not called by the word of a kind, or no two of its
sites are told apart by this word alone. -/
theorem names_confused_iff (compiles : config.Compiles instant intent compilation) :
    (∀ (kind kind' : ResourceKind) (id site id' site' : String),
      kind.resourceName id site = kind'.resourceName id' site' ↔ kind.Confused id site kind' id' site') ∧
      (compilation.resourceNames.Nodup ↔ compilation.Unechoed intent.id) := by
  have made := Compilation.madeFor_of_compiles compiles
  exact ⟨fun _ _ _ _ _ _ => ResourceKind.confused_iff.symm, made.nodup_resourceNames⟩

def wordIntent : Intent := ⟨"intent", none, none, none, none, [], .object [("intentId", .text "intent")]⟩

theorem edges_told_apart : ∃ compilation, Config.compileFor {} ⟨0, 0⟩ wordIntent ["all"] = .ok compilation ∧
    compilation.resourceNames.Nodup := by
  obtain ⟨compilation, done⟩ : ∃ compilation, Config.compileFor {} ⟨0, 0⟩ wordIntent ["all"] = .ok compilation :=
    ⟨_, rfl⟩
  refine ⟨compilation, done, (names_confused_iff (.inr ⟨_, done⟩)).2.mpr ?_⟩
  have edges (site : String) (member : site ∈ compilation.sites) : site ∈ ["edge1", "edge2"] := by
    obtain ⟨_, all, group, resolved, inside⟩ := (mem_sites_of_compileFor done).mp member
    obtain rfl := List.mem_singleton.mp all
    cases resolved
    exact inside
  intro entry member resource _ _ _ among
  have site := edges entry.1 (List.mem_map_of_mem member)
  have other := edges _ among
  generalize resource.kind = kind at other
  generalize entry.1 = name at site other
  revert name
  cases kind <;> decide

def wordSites : Config where
  sites := Table.ofList [("edge1", ⟨"cluster-a", "metro", "310260", "00001", "0001", none, none⟩),
    ("intent-edge1", ⟨"cluster-b", "metro", "310260", "00002", "0002", none, none⟩)]

/-- An accepted intent is compiled with an accepted configuration to two resources with one name. -/
theorem word_sites_confused : wordSites.validate = .ok () ∧ Intent.ofJson wordIntent.document = .ok wordIntent ∧
    "intent-edge1" ∈ wordSites.siteNames ∧ "edge1" ∈ wordSites.siteNames ∧
    ResourceKind.provisioningRequest.resourceName "intent" "intent-edge1" =
      ResourceKind.configMap.resourceName "intent" "edge1" ∧
    ∃ compilation, wordSites.compileFor ⟨0, 0⟩ wordIntent ["all"] = .ok compilation ∧
      ¬ compilation.resourceNames.Nodup := by
  refine ⟨by decide +kernel, rfl, by decide, by decide, by decide, _, rfl, by decide +kernel⟩

end Config

end IntentRollout
