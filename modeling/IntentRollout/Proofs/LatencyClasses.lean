import IntentRollout.Proofs.ValidConfigurations

/-! The class of a latency. The check of a configuration compares the ceilings of neighbouring breakpoints only;
the order of numbers carries that over to any two of them. So the first breakpoint that a latency keeps to is the
one with the least ceiling, a higher latency never gets an earlier one, and no breakpoint is hidden behind another. -/

namespace IntentRollout

namespace Binary64

variable {first second third : Binary64}

private theorem le_iff : first.le second = true ↔
    first.isNaN = false ∧ second.isNaN = false ∧ first.rank ≤ second.rank := by
  simp [le, and_assoc]

private theorem lt_iff : first.lt second = true ↔
    first.isNaN = false ∧ second.isNaN = false ∧ first.rank < second.rank := by
  simp [lt, and_assoc]

private theorem le_refl_of_number (number : first.isNaN = false) : first.le first = true :=
  le_iff.mpr ⟨number, number, Int.le_refl _⟩

theorem le_trans (below : first.le second = true) (above : second.le third = true) : first.le third = true := by
  obtain ⟨number, _, low⟩ := le_iff.mp below
  obtain ⟨_, last, high⟩ := le_iff.mp above
  exact le_iff.mpr ⟨number, last, Int.le_trans low high⟩

theorem lt_trans (below : first.lt second = true) (above : second.lt third = true) : first.lt third = true := by
  obtain ⟨number, _, low⟩ := lt_iff.mp below
  obtain ⟨_, last, high⟩ := lt_iff.mp above
  exact lt_iff.mpr ⟨number, last, Int.lt_trans low high⟩

theorem le_of_lt (below : first.lt second = true) : first.le second = true := by
  obtain ⟨number, last, low⟩ := lt_iff.mp below
  exact le_iff.mpr ⟨number, last, Int.le_of_lt low⟩

theorem not_lt_of_le (below : first.le second = true) : ¬ second.lt first = true := by
  intro above
  have low := (le_iff.mp below).2.2
  have high := (lt_iff.mp above).2.2
  omega

end Binary64

/-- Any two ceilings are in order if all neighbours are. -/
theorem Config.ascending_iff_pairwise {points : List Breakpoint} : ascending points = true ↔
    points.Pairwise fun first second => first.ceiling.lt second.ceiling = true := by
  induction points with
  | nil => simp [ascending]
  | cons first rest ih =>
    cases rest with
    | nil => simp [ascending]
    | cons second rest =>
      rw [ascending, Bool.and_eq_true, ih]
      constructor
      · rintro ⟨next, ordered⟩
        refine List.pairwise_cons.mpr ⟨?_, ordered⟩
        intro later member
        rcases List.mem_cons.mp member with rfl | further
        · exact next
        · exact Binary64.lt_trans next (List.rel_of_pairwise_cons ordered further)
      · intro ordered
        obtain ⟨below, further⟩ := List.pairwise_cons.mp ordered
        exact ⟨below second List.mem_cons_self, further⟩

namespace Qos

variable {qos : Qos} {latency : Binary64}

/-- The place of the breakpoint with the least ceiling that a latency does not exceed. A latency above all
ceilings comes after all breakpoints. -/
inductive Placed (qos : Qos) (latency : Binary64) : Nat → Prop where
  | least {place : Nat} {point : Breakpoint} (found : qos.breakpoints[place]? = some point)
      (kept : latency.le point.ceiling = true)
      (lowest : ∀ other ∈ qos.breakpoints, latency.le other.ceiling = true →
        point.ceiling.le other.ceiling = true) : Placed qos latency place
  | above (exceeded : ∀ point ∈ qos.breakpoints, ¬ latency.le point.ceiling = true) :
      Placed qos latency qos.breakpoints.length

/-- The classes of all places; the default stands after the breakpoints. -/
def classes (qos : Qos) : List UInt8 := qos.breakpoints.map (·.fiveQi) ++ [qos.defaultFiveQi]

/-- The class that the ceilings give to a latency, or the default where no latency is asked for. -/
inductive Assigns (qos : Qos) : Option Binary64 → UInt8 → Prop where
  | placed {latency : Binary64} {place : Nat} {fiveQi : UInt8} (placed : qos.Placed latency place)
      (held : qos.classes[place]? = some fiveQi) : Assigns qos (some latency) fiveQi
  | unstated : Assigns qos none qos.defaultFiveQi

def place (qos : Qos) (latency : Binary64) : Nat :=
  qos.breakpoints.findIdx fun point => latency.le point.ceiling

private theorem getElem?_place (qos : Qos) (latency : Binary64) :
    qos.breakpoints[qos.place latency]? = qos.breakpoints.find? fun point => latency.le point.ceiling :=
  List.find?_eq_getElem?_findIdx.symm

private theorem classes_place (qos : Qos) (latency : Binary64) :
    qos.classes[qos.place latency]? = some (qos.classify latency) := by
  rw [classes, place, classify]
  induction qos.breakpoints with
  | nil => rfl
  | cons point points ih =>
    rw [List.findIdx_cons, List.find?_cons]
    cases latency.le point.ceiling with
    | true => rfl
    | false => simpa using ih

private theorem Placed.le_length {place : Nat} (placed : qos.Placed latency place) :
    place ≤ qos.breakpoints.length := by
  cases placed with
  | least found => exact Nat.le_of_lt (List.getElem?_eq_some_iff.mp found).1
  | above => exact Nat.le_refl _

section Ordered

variable (ordered : Config.ascending qos.breakpoints = true)

include ordered

/-- A later breakpoint has a higher ceiling. -/
theorem ceiling_lt {earlier later : Nat} {first second : Breakpoint}
    (one : qos.breakpoints[earlier]? = some first) (other : qos.breakpoints[later]? = some second)
    (before : earlier < later) : first.ceiling.lt second.ceiling = true := by
  obtain ⟨inside, rfl⟩ := List.getElem?_eq_some_iff.mp one
  obtain ⟨within, rfl⟩ := List.getElem?_eq_some_iff.mp other
  exact List.pairwise_iff_getElem.mp (Config.ascending_iff_pairwise.mp ordered) earlier later inside within before

/-- The first breakpoint that a latency keeps to has the least of the ceilings that it keeps to. -/
theorem placed_place (latency : Binary64) : qos.Placed latency (qos.place latency) := by
  cases found : qos.breakpoints.find? fun point => latency.le point.ceiling with
  | none =>
    have exceeded := List.find?_eq_none.mp found
    have last : qos.place latency = qos.breakpoints.length := by
      rw [place, List.findIdx_eq_length]
      intro point member
      exact Bool.eq_false_iff.mpr (exceeded point member)
    rw [last]
    exact .above exceeded
  | some point =>
    have kept := List.find?_some found
    rw [← getElem?_place] at found
    refine .least found kept ?_
    intro other member reached
    obtain ⟨index, listed⟩ := List.mem_iff_getElem?.mp member
    rcases Nat.lt_trichotomy index (qos.place latency) with before | rfl | after
    · obtain ⟨within, rfl⟩ := List.getElem?_eq_some_iff.mp listed
      rw [place] at before
      exact absurd reached (Bool.eq_false_iff.mp (List.not_of_lt_findIdx before))
    · obtain rfl := Option.some_inj.mp (found.symm.trans listed)
      exact Binary64.le_refl_of_number (Binary64.le_iff.mp kept).2.1
    · exact Binary64.le_of_lt (ceiling_lt ordered found listed after)

/-- A latency that keeps to every ceiling that another one keeps to does not come after it. -/
theorem Placed.le_of_keeps {lower higher : Binary64} {first second : Nat}
    (keeps : ∀ ceiling : Binary64, higher.le ceiling = true → lower.le ceiling = true)
    (one : qos.Placed lower first) (other : qos.Placed higher second) : first ≤ second := by
  cases other with
  | above => exact one.le_length
  | least found kept =>
    have reached := keeps _ kept
    cases one with
    | above exceeded => exact absurd reached (exceeded _ (List.mem_of_getElem? found))
    | least held _ lowest =>
      have low := lowest _ (List.mem_of_getElem? found) reached
      apply Nat.le_of_not_lt
      intro after
      exact Binary64.not_lt_of_le low (ceiling_lt ordered found held after)

private theorem placed_iff {place : Nat} : qos.Placed latency place ↔ place = qos.place latency := by
  constructor
  · intro placed
    exact Nat.le_antisymm (placed.le_of_keeps ordered (fun _ kept => kept) (placed_place ordered latency))
      ((placed_place ordered latency).le_of_keeps ordered (fun _ kept => kept) placed)
  · rintro rfl
    exact placed_place ordered latency

/-- A breakpoint is chosen for its own ceiling. -/
theorem place_ceiling {place : Nat} {point : Breakpoint} (found : qos.breakpoints[place]? = some point)
    (number : point.ceiling.isNaN = false) : qos.place point.ceiling = place := by
  symm
  apply (placed_iff ordered).mp
  exact .least found (Binary64.le_refl_of_number number) fun _ _ reached => reached

end Ordered

structure Graded (qos : Qos) : Prop where
  /-- Each latency has one place, and the class that stands there. -/
  placed : ∀ latency, ∃ place, (∀ other, qos.Placed latency other ↔ other = place) ∧
    qos.classes[place]? = some (qos.classify latency)
  rising : ∀ lower higher : Binary64, lower.le higher = true → ∀ first second,
    qos.Placed lower first → qos.Placed higher second → first ≤ second
  /-- No breakpoint is without latencies of its own. -/
  reached : ∀ place point, qos.breakpoints[place]? = some point → point.ceiling.isNaN = false →
    qos.Placed point.ceiling place ∧ qos.classify point.ceiling = point.fiveQi

private theorem graded_of_ascending (ordered : Config.ascending qos.breakpoints = true) : qos.Graded where
  placed latency := ⟨qos.place latency, fun _ => placed_iff ordered, qos.classes_place latency⟩
  rising _ _ below _ _ one other := one.le_of_keeps ordered (fun _ kept => Binary64.le_trans below kept) other
  reached place point found number := by
    have same := place_ceiling ordered found number
    refine ⟨(placed_iff ordered).mpr same.symm, ?_⟩
    have held := qos.classes_place point.ceiling
    obtain ⟨inside, _⟩ := List.getElem?_eq_some_iff.mp found
    rw [same, classes, List.getElem?_append_left (by simpa using inside), List.getElem?_map, found] at held
    exact (Option.some_inj.mp held).symm

private theorem Graded.assigns_iff (graded : qos.Graded) (sla : Sla) (fiveQi : UInt8) :
    qos.Assigns sla.latency fiveQi ↔ fiveQi = sla.fiveQi qos := by
  rw [Sla.fiveQi]
  cases sla.latency with
  | none =>
    constructor
    · rintro ⟨⟩
      rfl
    · rintro rfl
      exact .unstated
  | some latency =>
    obtain ⟨place, only, held⟩ := graded.placed latency
    constructor
    · intro assigned
      cases assigned with
      | placed placed given =>
        rw [(only _).mp placed, held] at given
        exact (Option.some_inj.mp given).symm
    · rintro rfl
      exact .placed ((only place).mpr rfl) held

end Qos

namespace SiteRequest

variable {request : SiteRequest} {sla : Sla}

private theorem networkSlice_qos (agreed : request.intent.sla = some sla) (name : String) :
    request.networkSlice.document.within? ["spec", "qos", name] = (sla.qosParameters request.qos).member? name := by
  simp [Json.within?, networkSlice, sliceSpec, resource, Json.member?_ofMembers, Entries.get?_cons, agreed]

private theorem provisioningRequest_requirement (agreed : request.intent.sla = some sla) (name : String) :
    request.provisioningRequest.document.within? ["spec", "slaRequirements", name] = sla.requirements.member? name := by
  simp [Json.within?, provisioningRequest, provisioningSpec, resource, Json.member?_ofMembers, Entries.get?_cons, agreed]

private theorem get?_provisioningRequest :
    request.bundle.get? .provisioningRequest = some request.provisioningRequest := rfl

private theorem get?_networkSlice (agreed : request.intent.sla = some sla) :
    request.bundle.get? .networkSlice = some request.networkSlice := by
  rw [Bundle.get?, bundle, members, agreed]
  rfl

end SiteRequest

namespace Sla

private theorem reverse_member (name : String) (text : Option String) :
    (member name text).reverse = member name text := by
  cases text <;> rfl

private theorem get?_member (name key : String) (text : Option String) :
    Entries.get? (member name text) key = if name = key then text.map .text else none := by
  cases text with
  | none => simp [member, Entries.get?_nil]
  | some text => simp [member, Entries.get?_cons, Entries.get?_nil]

private theorem qosParameters_class (sla : Sla) (qos : Qos) :
    (sla.qosParameters qos).member? "5qi" = some (.natural (sla.fiveQi qos).toNat) := by
  simp [qosParameters, Json.member?_ofMembers, reverse_member, Entries.get?_append, get?_member, Entries.get?_cons]

private theorem qosParameters_rate (sla : Sla) (qos : Qos) :
    (sla.qosParameters qos).member? "gfbr" = sla.throughput.map fun throughput => .text (rateText throughput) := by
  simp [qosParameters, Json.member?_ofMembers, reverse_member, Entries.get?_append, get?_member, Entries.get?_cons,
    Entries.get?_nil, Function.comp_def]

private theorem requirements_rate (sla : Sla) :
    sla.requirements.member? "minThroughput" = sla.throughput.map fun throughput => .text (rateText throughput) := by
  simp [requirements, Json.member?_ofMembers, reverse_member, Entries.get?_append, get?_member, Function.comp_def]

end Sla

/-- What the resources of a bundle say of an agreement: the slice has its class, and slice and request have one
rate if the agreement has a throughput, and none otherwise. -/
structure Bundle.Serves (bundle : Bundle) (qos : Qos) (sla : Sla) : Prop where
  classed : ∃ slice fiveQi, bundle.get? .networkSlice = some slice ∧
    slice.document.within? ["spec", "qos", "5qi"] = some (.natural fiveQi.toNat) ∧
    ∀ other, qos.Assigns sla.latency other ↔ other = fiveQi
  rated : ∃ slice request, bundle.get? .networkSlice = some slice ∧
    bundle.get? .provisioningRequest = some request ∧
    slice.document.within? ["spec", "qos", "gfbr"] =
      (sla.throughput.map fun throughput => .text (Sla.rateText throughput)) ∧
    request.document.within? ["spec", "slaRequirements", "minThroughput"] =
      slice.document.within? ["spec", "qos", "gfbr"]

namespace SiteRequest

variable {request : SiteRequest} {sla : Sla}

theorem serves (graded : request.qos.Graded) (agreed : request.intent.sla = some sla) :
    request.bundle.Serves request.qos sla where
  classed := by
    refine ⟨_, sla.fiveQi request.qos, get?_networkSlice agreed, ?_, graded.assigns_iff sla⟩
    rw [networkSlice_qos agreed, Sla.qosParameters_class]
  rated := by
    refine ⟨_, _, get?_networkSlice agreed, get?_provisioningRequest, ?_, ?_⟩
    · rw [networkSlice_qos agreed, Sla.qosParameters_rate]
    · rw [networkSlice_qos agreed, Sla.qosParameters_rate, provisioningRequest_requirement agreed,
        Sla.requirements_rate]

end SiteRequest

namespace Config

/-- A configuration that passes its check divides latencies by its ceilings, each bundle says so of the agreement of
its intent, and it says the same of the rate in both of its documents. -/
theorem classes_selected {config : Config} (accepted : config.validate = .ok ()) :
    config.qos.Graded ∧
      ∀ instant intent compilation sla, config.Compiles instant intent compilation → intent.sla = some sla →
        ∀ name bundle, compilation.bundles.get? name = some bundle → bundle.Serves config.qos sla := by
  have graded := Qos.graded_of_ascending (validate_eq_ok.mp accepted).ordered
  refine ⟨graded, ?_⟩
  intro instant intent compilation sla compiles agreed name bundle held
  obtain ⟨_, compiled⟩ := compiles.compiled
  obtain ⟨profile, _, found⟩ := Option.bind_eq_some_iff.mp (compiled.bundle?_eq held)
  obtain ⟨site, _, same⟩ := Option.bind_eq_some_iff.mp found
  obtain rfl := Option.some_inj.mp same
  exact SiteRequest.serves graded agreed

def promptIntent : Intent :=
  ⟨"i1", none, none, none, some { latency := some (.ofNat 10), throughput := some (.ofNat 200) }, [], .object [
    ("intentId", .text "i1"), ("sla", .object [("latency", .natural 10), ("throughput", .natural 200)])]⟩

theorem prompt_class_selected : laboratory.validate = .ok () ∧ laboratory.qos.Placed (.ofNat 10) 1 ∧
    ∃ compilation bundle slice request, laboratory.compile ⟨0, 0⟩ promptIntent = .ok compilation ∧
      compilation.bundles.get? "lab" = some bundle ∧ bundle.get? .networkSlice = some slice ∧
      bundle.get? .provisioningRequest = some request ∧
      slice.document.within? ["spec", "qos", "5qi"] = some (.natural 5) ∧
      slice.document.within? ["spec", "qos", "gfbr"] = some (.text (Sla.rateText (.ofNat 200))) ∧
      request.document.within? ["spec", "slaRequirements", "minThroughput"] =
        some (.text (Sla.rateText (.ofNat 200))) := by
  have accepted : laboratory.validate = .ok () := by decide +kernel
  obtain ⟨graded, served⟩ := classes_selected accepted
  have placed : laboratory.qos.Placed (.ofNat 10) 1 :=
    (graded.reached 1 ⟨.ofNat 10, 5⟩ rfl (by decide +kernel)).1
  obtain ⟨compilation, bundle, done, held⟩ : ∃ compilation bundle,
      laboratory.compile ⟨0, 0⟩ promptIntent = .ok compilation ∧ compilation.bundles.get? "lab" = some bundle :=
    ⟨_, _, rfl, rfl⟩
  obtain ⟨⟨slice, fiveQi, got, classed, only⟩, ⟨slice', request, got', asked, rated, same⟩⟩ :=
    served ⟨0, 0⟩ promptIntent compilation _ (.inl done) rfl "lab" bundle held
  obtain rfl := Option.some_inj.mp (got.symm.trans got')
  obtain rfl : 5 = fiveQi := (only 5).mp (.placed placed rfl)
  exact ⟨accepted, placed, compilation, bundle, slice, request, done, held, got, asked, classed, rated, same.trans rated⟩

end Config

end IntentRollout
