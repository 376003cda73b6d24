import IntentRollout.Proofs.CanonicalDocuments
import IntentRollout.Proofs.ResourceDocuments
import IntentRollout.Proofs.SiteIndependence

/-! Compiling once more from what was compiled. The map of a site holds the document of its intent, and nothing but
that document matters to what an intent is compiled to. -/

namespace IntentRollout

def Bundle.embedded? (bundle : Bundle) : Option String :=
  (bundle.get? .configMap).bind fun map => (map.document.within? ["data", "intent.json"]).bind Json.text?

private theorem Config.embedded?_eq {config : Config} {instant : Instant} {intent : Intent} {site : String}
    {bundle : Bundle}
    (made : config.bundle? instant intent site = some bundle) : bundle.embedded? = some intent.document.pretty := by
  obtain ⟨profile, _, made⟩ := Option.bind_eq_some_iff.mp made
  obtain ⟨entry, _, same⟩ := Option.bind_eq_some_iff.mp made
  cases same
  rw [Bundle.embedded?, SiteRequest.get?_configMap, Option.bind_some, SiteRequest.configMap_intent]
  rfl

namespace Intent

theorem read_eq_ok {text : String} {intent : Intent} :
    read text = .ok intent ↔ ∃ document, Json.read text = .ok document ∧ ofJson document = .ok intent := by
  rw [read, bind_eq_ok]
  simp only [mapError_eq_ok]

/-- An intent keeps the document that it was read from. -/
theorem document_of_ofJson {document : Json} {intent : Intent} (accepted : ofJson document = .ok intent) :
    intent.document = document := by
  cases document with
  | object members =>
    simp only [ofJson, bind_eq_ok] at accepted
    obtain ⟨id, _, sla, _, serviceType, _, targetSite, _, resourceProfile, _, same⟩ := accepted
    cases same
    rfl
  | _ => cases accepted

end Intent

/-- What becomes of the text of an intent that was compiled for some targets. -/
structure Replayed (config : Config) (instant : Instant) (targets : List String) (intent : Intent)
    (compilation : Compilation) (embedded : String) : Prop where
  document : Json.read embedded = .ok intent.document
  again : Intent.read embedded = .ok intent
  /-- Whatever intent the text is read as, it is compiled to the same files. -/
  files : ∀ reread, Intent.read embedded = .ok reread →
    ∃ recompiled, config.compileFor instant reread targets = .ok recompiled ∧
      recompiled.sites = compilation.sites ∧
      ∀ site, (recompiled.bundles.get? site).map Bundle.rendered = (compilation.bundles.get? site).map Bundle.rendered

theorem replay {text : String} {intent : Intent} (accepted : Intent.read text = .ok intent) {config : Config}
    {instant : Instant} {targets : List String} {compilation : Compilation}
    (compiles : config.compileFor instant intent targets = .ok compilation)
    (legible : ∀ value ∈ intent.document.floats, value.isFinite = true → Json.Legible value) :
    Json.read text = .ok intent.document ∧ ∀ site bundle, compilation.bundles.get? site = some bundle →
      ∃ embedded, bundle.embedded? = some embedded ∧
        Replayed config instant targets intent compilation embedded := by
  obtain ⟨document, parsed, understood⟩ := Intent.read_eq_ok.mp accepted
  obtain rfl := Intent.document_of_ofJson understood
  refine ⟨parsed, fun site bundle held => ?_⟩
  obtain ⟨_, _, _, compiled⟩ := Config.compiled_of_compileFor compiles
  have reparsed := Json.read_pretty_of_read parsed legible
  have again : Intent.read intent.document.pretty = .ok intent :=
    Intent.read_eq_ok.mpr ⟨intent.document, reparsed, understood⟩
  refine ⟨intent.document.pretty, Config.embedded?_eq (compiled.bundle?_eq held), reparsed, again, ?_⟩
  intro reread accepted
  obtain rfl := Except.ok.inj (again.symm.trans accepted)
  exact ⟨compilation, compiles, rfl, fun _ => rfl⟩

def notedText : String :=
  "\x7b\"targetSite\": null, \"notes\": [-2, 0.5, \x7b\"line\\n\": \"\\u00e9\\\"\"\x7d], \"intentId\": \"i1\"\x7d"

def half : Binary64 := ⟨0x3fe0000000000000⟩

private theorem half_legible : Json.Legible half := Json.legible_of_float? (by decide +kernel) (by decide +kernel)

theorem noted_replayed : ∃ intent compilation, Intent.read notedText = .ok intent ∧ intent.document.floats = [half] ∧
    Config.compileFor {} ⟨0, 0⟩ intent ["edge2", "edge1"] = .ok compilation ∧
    ∀ site bundle, compilation.bundles.get? site = some bundle →
      ∃ embedded, bundle.embedded? = some embedded ∧
        Replayed {} ⟨0, 0⟩ ["edge2", "edge1"] intent compilation embedded := by
  have floats : (Intent.read notedText).toOption.map (·.document.floats) = some [half] := by decide +kernel
  obtain ⟨intent, accepted, floats⟩ := Option.map_eq_some_iff.mp floats
  rw [toOption_eq_some] at accepted
  obtain ⟨compilation, compiles⟩ : ∃ compilation,
      Config.compileFor {} ⟨0, 0⟩ intent ["edge2", "edge1"] = .ok compilation := by
    refine Config.exists_compileFor.mpr ⟨by cases intent.service <;> exact ⟨_, rfl⟩, ?_⟩
    rw [List.forall_mem_cons, List.forall_mem_singleton]
    exact ⟨⟨["edge2"], rfl⟩, ["edge1"], rfl⟩
  refine ⟨intent, compilation, accepted, floats, compiles, (replay accepted compiles ?_).2⟩
  intro value member _
  rw [floats, List.mem_singleton] at member
  exact member ▸ half_legible

end IntentRollout
