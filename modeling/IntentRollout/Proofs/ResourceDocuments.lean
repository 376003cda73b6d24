import IntentRollout.Bundle.Resource
import IntentRollout.Proofs.TableLaws

/-! What stands where in the documents of a bundle. A document that is made of its members is read through the
list that they were given in. -/

namespace IntentRollout

namespace Json

def within? (document : Json) (path : List String) : Option Json := path.foldlM Json.member? document

theorem member?_ofMembers (members : List (String × Json)) (key : String) :
    (ofMembers members).member? key = Entries.get? members.reverse key :=
  Entries.get?_ofList members key

end Json

namespace SiteRequest

variable (request : SiteRequest)

theorem configMap_intent : request.configMap.document.within? ["data", "intent.json"] =
    some (.text request.intent.document.pretty) := by
  simp [Json.within?, configMap, resource, Json.member?_ofMembers, Entries.get?_cons]

theorem networkSlice_country : request.networkSlice.document.within? ["spec", "plmn", "mcc"] =
    some (.text (plmnCodes request.site.plmn).1) := by
  cases agreed : request.intent.sla <;>
    simp [Json.within?, networkSlice, sliceSpec, resource, Json.member?_ofMembers, Entries.get?_cons, agreed]

theorem networkSlice_network : request.networkSlice.document.within? ["spec", "plmn", "mnc"] =
    some (.text (plmnCodes request.site.plmn).2) := by
  cases agreed : request.intent.sla <;>
    simp [Json.within?, networkSlice, sliceSpec, resource, Json.member?_ofMembers, Entries.get?_cons, agreed]

variable {request}

theorem eq_of_mem_resources {found : Resource} (member : found ∈ request.bundle.resources) :
    found = request.provisioningRequest ∨ found = request.configMap ∨
      (request.intent.sla.isSome = true ∧ found = request.networkSlice) ∨
        found = request.kustomization request.members := by
  simp only [bundle, members, List.mem_append, List.mem_cons, List.not_mem_nil, or_false] at member
  rcases member with ((rfl | rfl) | sliced) | rfl
  · exact .inl rfl
  · exact .inr (.inl rfl)
  · split at sliced
    next agreed => exact .inr (.inr (.inl ⟨agreed, List.mem_singleton.mp sliced⟩))
    · cases sliced
  · exact .inr (.inr (.inr rfl))

theorem networkSlice_of_mem {found : Resource} (member : found ∈ request.bundle.resources)
    (kind : found.kind = .networkSlice) : found = request.networkSlice := by
  obtain rfl | rfl | ⟨_, rfl⟩ | rfl := eq_of_mem_resources member
  · cases kind
  · cases kind
  · rfl
  · cases kind

theorem get?_configMap : request.bundle.get? .configMap = some request.configMap := rfl

end SiteRequest

end IntentRollout
