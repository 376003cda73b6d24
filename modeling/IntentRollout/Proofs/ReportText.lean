import IntentRollout.Proofs.CanonicalDocuments
import IntentRollout.Proofs.ManifestText
import IntentRollout.Rollout.Report

/-! The text of a report. Members that are absent are left out or written as null; reading puts a null in the place
of both, and from the document that comes out the same report is made. -/

namespace IntentRollout

namespace Json

theorem reads_bool (value : Bool) : Reads .bool (.bool value) where
  opens level := by
    cases value with
    | true => exact ⟨'t', _, rfl, by decide⟩
    | false => exact ⟨'f', _, rfl, by decide⟩
  reads level blanks rest skipped _ := by
    cases value with
    | true =>
      change Schema.readShaped .bool (blanks ++ 't' :: 'r' :: 'u' :: 'e' :: rest) = _
      rw [Schema.readShaped, skipBlank_blanks skipped (by decide)]
      rfl
    | false =>
      change Schema.readShaped .bool (blanks ++ 'f' :: 'a' :: 'l' :: 's' :: 'e' :: rest) = _
      rw [Schema.readShaped, skipBlank_blanks skipped (by decide)]
      rfl

private theorem reads_choice {variants : List String} {text : String} (known : text ∈ variants) :
    Reads (.choice variants) (.text text) where
  opens := (reads_text text).opens
  reads level blanks rest skipped _ := by
    have written : prettyChars level (.text text) ++ rest = '"' :: (text.toList.flatMap escaped ++ '"' :: rest) := by
      simp [prettyChars, writtenLeaf, writtenText]
    rw [written, Schema.readShaped, readChoice, skipBlank_blanks skipped (by decide)]
    simp only [readText_written, bind, Except.bind, if_pos known]

private theorem reads_null (inner : Schema) : Reads (.optional inner) .null where
  opens level := ⟨'n', _, rfl, by decide⟩
  reads level blanks rest skipped _ := by
    change Schema.readShaped (.optional inner) (blanks ++ 'n' :: 'u' :: 'l' :: 'l' :: rest) = _
    rw [Schema.readShaped, skipBlank_blanks skipped (by decide)]
    rfl

/-- A value that is there is read as without the option, since it does not look like null. -/
theorem readsAs_optional {inner : Schema} {written found : Json} {first : Char} (reads : ReadsAs inner written found)
    (opens : ∀ level, ∃ more, written.prettyChars level = first :: more) (visible : first ≠ 'n') :
    ReadsAs (.optional inner) written found where
  opens := reads.opens
  reads level blanks rest skipped closes := by
    obtain ⟨more, shown⟩ := opens level
    obtain ⟨first', more', shown', marks⟩ := reads.opens level
    obtain ⟨rfl, rfl⟩ := List.cons.inj (shown.symm.trans shown')
    have direct := reads.reads level [] rest .nil closes
    rw [shown, List.nil_append, List.cons_append] at direct
    rw [shown, List.cons_append, Schema.readShaped, skipBlank_blanks skipped marks]
    split
    next same => exact absurd (List.cons.inj same).1 visible
    next => exact direct

private theorem reads_optionalText (value : Option String) : Reads (.optional .text) (.optionalText value) := by
  cases value with
  | none => exact reads_null .text
  | some text =>
    have opens (level : Nat) : ∃ more, (Json.text text).prettyChars level = '"' :: more :=
      ⟨text.toList.flatMap escaped ++ ['"'], by simp [prettyChars, writtenLeaf, writtenText]⟩
    exact readsAs_optional (reads_text text) opens (by decide)

private theorem Spelled.readNumberAs_eq {number : Number} {text : List Char} (spelled : Spelled number text)
    (expected : String) {judge : Number → Except Mismatch Json} {document : Json} (judged : judge number = .ok document)
    {blanks rest : List Char} (skipped : Blanks blanks) (closes : Closes rest) :
    readNumberAs expected judge (blanks ++ (text ++ rest)) = .ok (document, rest) := by
  cases spelled with
  | negative read =>
    have whole := contained_readNumber.closed read closes
    rw [readNumberAs, List.cons_append, skipBlank_blanks skipped (by decide)]
    simp only [whole, bind, Except.bind, judged]
    rfl
  | @positive first _ digit read =>
    have whole := contained_readNumber.closed read closes
    have unsigned : first ≠ '-' := by
      rintro rfl
      cases digit
    rw [List.cons_append] at whole
    rw [readNumberAs, List.cons_append, skipBlank_blanks skipped (opens_of_digit digit)]
    simp only [whole, bind, Except.bind, judged, digit, if_true]
    rfl

theorem reads_float {value : Binary64} (legible : Legible value) : Reads .float (float value) where
  opens _ := (spelled_float legible).opens
  reads level blanks rest skipped closes := by
    rw [Schema.readShaped]
    exact (spelled_float legible).readNumberAs_eq "f64" rfl skipped closes

/-- An optional text that is left out is found as null. -/
theorem Arranges.optionalText {lenient : Bool} {name : String} (value : Option String)
    {fields : List (String × Schema)} {written arranged : List (String × Json)}
    (rest : Arranges lenient fields written arranged) :
    Arranges lenient ((name, .optional .text) :: fields) (optionalMember name value ++ written)
      ((name, .optionalText value) :: arranged) := by
  cases value with
  | none => exact .filled rfl rest
  | some text => exact .given (reads_optionalText (some text)) rest

end Json

open Json

structure Violation.Legible (violation : Violation) : Prop where
  threshold : violation.constraint.threshold.isFinite = true ∧ Json.Legible violation.constraint.threshold
  actual : violation.actual.isFinite = true ∧ Json.Legible violation.actual

/-- All violations in some details: those of the gates and those of the gate that failed. -/
structure ReportDetails.Every (property : Violation → Prop) (details : ReportDetails) : Prop where
  gates : ∀ entry ∈ details.gates.entries, ∀ violation ∈ entry.2.violations, property violation
  violations : ∀ violation ∈ details.violations, property violation

def Violation.found (violation : Violation) : Json := .object [
  ("metric", .text violation.constraint.metric), ("operator", .text violation.constraint.operator.symbol),
  ("threshold", float violation.constraint.threshold), ("actual", float violation.actual)]

def violationsFound (violations : List Violation) : Json := .array (violations.map Violation.found)

def GateRecord.found (record : GateRecord) : Json := .object [
  ("passed", .bool record.passed), ("violations", violationsFound record.violations),
  ("errorKind", .optionalText record.errorKind), ("error", .optionalText record.error)]

def RollbackRecord.found (record : RollbackRecord) : Json := .object [
  ("performed", .bool record.performed), ("error", .optionalText record.error)]

def rollbackFound : Option RollbackRecord → Json
  | some record => record.found
  | none => .null

def ReportDetails.found (details : ReportDetails) : Json := .object <|
  [("phase", .optionalText details.phase), ("target", .optionalText details.target),
    ("error", .optionalText details.error), ("targets", .texts details.targets),
    ("published", .array (details.published.map PublishRecord.toJson)),
    ("gates", .object (details.gates.mapValues fun _ record => record.found).entries)] ++
  (if details.violations.isEmpty then [] else [("violations", violationsFound details.violations)]) ++
  [("checksums", textsByName details.checksums), ("rollback", rollbackFound details.rollback)]

def Report.found (report : Report) : Json := .object [
  ("timestamp", .text report.timestamp), ("success", .bool report.success), ("mode", .text report.mode.name),
  ("dryRun", .bool report.dryRun), ("rollbackPoint", .optionalText report.rollbackPoint),
  ("executionLog", .texts report.log), ("details", report.details.found)]

namespace Report

private theorem reads_violation {violation : Violation} (legible : violation.Legible) :
    ReadsAs violationSchema violation.toJson violation.found := by
  have threshold : Json.finite violation.constraint.threshold = float violation.constraint.threshold :=
    if_pos legible.threshold.1
  have actual : Json.finite violation.actual = float violation.actual := if_pos legible.actual.1
  have symbol : violation.constraint.operator.symbol ∈ Operator.all.map Operator.symbol := by
    cases violation.constraint.operator <;> decide
  rw [Violation.toJson, threshold, actual]
  refine readsAs_record _ ?_ (by decide)
  exact .given (reads_text _) (.given (reads_choice symbol) (.given (reads_float legible.threshold.2)
    (.given (reads_float legible.actual.2) .nil)))

private theorem reads_violations {violations : List Violation} (legible : ∀ violation ∈ violations, violation.Legible) :
    ReadsAs (.list violationSchema) (.array (violations.map Violation.toJson)) (violationsFound violations) := by
  apply readsAs_list
  rw [List.forall₂_map_left_iff, List.forall₂_map_right_iff, List.forall₂_same]
  exact fun violation member => reads_violation (legible violation member)

private theorem reads_gate {record : GateRecord} (legible : ∀ violation ∈ record.violations, violation.Legible) :
    ReadsAs gateSchema record.toJson record.found := by
  refine readsAs_record _ ?_ (by decide)
  rw [List.append_assoc, ← List.append_nil (optionalMember "error" record.error)]
  exact .given (reads_bool _) (.given (reads_violations legible) (.optionalText _ (.optionalText _ .nil)))

private theorem reads_gates {gates : Table String GateRecord}
    (legible : ∀ entry ∈ gates.entries, ∀ violation ∈ entry.2.violations, violation.Legible) :
    ReadsAs (.table gateSchema) (.object (gates.mapValues fun _ record => record.toJson).entries)
      (.object (gates.mapValues fun _ record => record.found).entries) := by
  apply readsAs_table (Table.sorted _)
  simp only [Table.mapValues]
  rw [List.forall₂_map_left_iff, List.forall₂_map_right_iff, List.forall₂_same]
  exact fun entry member => ⟨rfl, reads_gate (legible entry member)⟩

private theorem reads_publish (record : PublishRecord) : Reads publishSchema record.toJson :=
  readsAs_record _ (.given (reads_text _) (.given (reads_optionalText _) .nil)) (by decide)

private theorem reads_published (records : List PublishRecord) :
    Reads (.list publishSchema) (.array (records.map PublishRecord.toJson)) := by
  refine reads_list fun item member => ?_
  obtain ⟨record, _, rfl⟩ := List.mem_map.mp member
  exact reads_publish record

private theorem reads_rollback (record : RollbackRecord) : ReadsAs rollbackSchema record.toJson record.found := by
  refine readsAs_record _ ?_ (by decide)
  rw [← List.append_nil (optionalMember "error" record.error)]
  exact .given (reads_bool _) (.optionalText _ .nil)

private theorem reads_checksums (checksums : Table String String) : Reads (.table .text) (textsByName checksums) := by
  refine reads_table (Table.sorted _) fun entry member => ?_
  obtain ⟨before, _, rfl⟩ := List.mem_map.mp member
  exact reads_text _

/-- What comes after the violations. -/
theorem arranges_ending (checksums : Table String String) (rollback : Option RollbackRecord) :
    Arranges true [("checksums", .table .text), ("rollback", .optional rollbackSchema)]
      ([("checksums", textsByName checksums)] ++ (rollback.map fun record => ("rollback", record.toJson)).toList)
      [("checksums", textsByName checksums), ("rollback", rollbackFound rollback)] := by
  refine .given (reads_checksums checksums) ?_
  cases rollback with
  | none => exact .filled rfl .nil
  | some record =>
    have opens (level : Nat) : ∃ more, record.toJson.prettyChars level = '\x7b' :: more :=
      ⟨_, prettyChars_object level _⟩
    exact .given (readsAs_optional (reads_rollback record) opens (by decide)) .nil

private theorem reads_details {details : ReportDetails} (legible : details.Every Violation.Legible) :
    ReadsAs detailsSchema details.toJson details.found := by
  have ending := arranges_ending details.checksums details.rollback
  have judged : Arranges true [("violations", .list violationSchema), ("checksums", .table .text),
      ("rollback", .optional rollbackSchema)]
      ((if details.violations.isEmpty then [] else [("violations", .array (details.violations.map Violation.toJson))]) ++
        ([("checksums", textsByName details.checksums)] ++
          (details.rollback.map fun record => ("rollback", record.toJson)).toList))
      ((if details.violations.isEmpty then [] else [("violations", violationsFound details.violations)]) ++
        [("checksums", textsByName details.checksums), ("rollback", rollbackFound details.rollback)]) := by
    cases details.violations.isEmpty with
    | true => exact .skipped rfl ending
    | false => exact .given (reads_violations legible.violations) ending
  refine readsAs_record _ ?_ (by decide)
  simp only [List.append_assoc]
  exact .optionalText _ (.optionalText _ (.optionalText _ (.given (reads_texts _) (.given (reads_published _)
    (.given (reads_gates legible.gates) judged)))))

private theorem reads_report {report : Report} (legible : report.details.Every Violation.Legible) :
    ReadsAs schema report.toJson report.found := by
  have mode : report.mode.name ∈ Mode.all.map Mode.name := by
    cases report.mode <;> decide
  refine readsAs_record _ ?_ (by decide)
  exact .given (reads_text _) (.given (reads_bool _) (.given (reads_choice mode) (.given (reads_bool _)
    (.given (reads_optionalText _) (.given (reads_texts _) (.given (reads_details legible) .nil))))))

private theorem optional?_optionalText {document : Json} {name : String} {value : Option String}
    (held : document.member? name = some (.optionalText value)) : optional? text? document name = some value := by
  rw [optional?, held]
  cases value <;> rfl

private theorem lenient?_of_held {α : Type} {document value : Json} {name : String}
    (held : document.member? name = some value)
    (absent : α) (read? : Option α) : lenient? document name absent read? = read? := by
  rw [lenient?, held]
  rfl

private theorem violation?_found (violation : Violation) : violation? violation.found = some violation := by
  have symbol : Operator.ofSymbol? violation.constraint.operator.symbol = some violation.constraint.operator := by
    cases violation.constraint.operator <;> rfl
  change (Operator.ofSymbol? violation.constraint.operator.symbol).bind _ = _
  rw [symbol]
  rfl

private theorem listMember?_violations {document : Json} {name : String} {violations : List Violation}
    (held : document.member? name = some (violationsFound violations)) :
    document.listMember? violation? name = some violations := listMember?_eq violation?_found held

private theorem gate?_found (record : GateRecord) : gate? record.found = some record := by
  have violations : record.found.listMember? violation? "violations" = some record.violations :=
    listMember?_violations rfl
  have errorKind : optional? text? record.found "errorKind" = some record.errorKind := optional?_optionalText rfl
  have error : optional? text? record.found "error" = some record.error := optional?_optionalText rfl
  rw [gate?, violations, errorKind, error]
  rfl

private theorem publish?_toJson (record : PublishRecord) : publish? record.toJson = some record := by
  have revision : optional? text? record.toJson "revision" = some record.revision := optional?_optionalText rfl
  rw [publish?, revision]
  rfl

private theorem rollback?_found (record : RollbackRecord) : rollback? record.found = some record := by
  have error : optional? text? record.found "error" = some record.error := optional?_optionalText rfl
  rw [rollback?, error]
  rfl

/-- The members that stand behind the violations, which are left out if there are none. -/
theorem member?_ending (details : ReportDetails) :
    details.found.member? "violations" =
        (if details.violations.isEmpty then none else some (violationsFound details.violations)) ∧
      details.found.member? "checksums" = some (textsByName details.checksums) ∧
      details.found.member? "rollback" = some (rollbackFound details.rollback) := by
  rw [ReportDetails.found]
  cases details.violations.isEmpty <;> exact ⟨rfl, rfl, rfl⟩

private theorem details?_found (details : ReportDetails) : details? details.found = some details := by
  have phase : optional? text? details.found "phase" = some details.phase := optional?_optionalText rfl
  have target : optional? text? details.found "target" = some details.target := optional?_optionalText rfl
  have error : optional? text? details.found "error" = some details.error := optional?_optionalText rfl
  have targets : lenient? details.found "targets" [] (details.found.listMember? text? "targets") =
      some details.targets := by
    rw [lenient?_of_held (rfl : details.found.member? "targets" = some _)]
    exact listMember?_texts rfl
  have published : lenient? details.found "published" [] (details.found.listMember? publish? "published") =
      some details.published := by
    rw [lenient?_of_held (rfl : details.found.member? "published" = some _)]
    exact listMember?_eq publish?_toJson rfl
  have gates : lenient? details.found "gates" Table.empty (details.found.tableMember? gate? "gates") =
      some details.gates := by
    rw [lenient?_of_held (rfl : details.found.member? "gates" = some _)]
    exact tableMember?_eq gate?_found rfl
  obtain ⟨judged, summed, returned⟩ := member?_ending details
  have violations : lenient? details.found "violations" [] (details.found.listMember? violation? "violations") =
      some details.violations := by
    cases none : details.violations.isEmpty with
    | true =>
      rw [none, if_pos rfl] at judged
      rw [lenient?, judged, List.isEmpty_iff.mp none]
      rfl
    | false =>
      rw [none, if_neg Bool.false_ne_true] at judged
      rw [lenient?_of_held judged]
      exact listMember?_violations judged
  have checksums : lenient? details.found "checksums" Table.empty (details.found.tableMember? text? "checksums") =
      some details.checksums := by
    rw [lenient?_of_held summed]
    exact tableMember?_eq text?_text summed
  have rollback : optional? rollback? details.found "rollback" = some details.rollback := by
    rw [optional?, returned]
    cases details.rollback with
    | none => rfl
    | some record => exact congrArg (Option.map some) (rollback?_found record)
  rw [details?, phase, target, error, targets, published, gates, violations, checksums, rollback]
  rfl

private theorem ofJson?_found (report : Report) : ofJson? report.found = some report := by
  have mode : Mode.read? report.mode.name = some report.mode := by
    cases report.mode <;> decide +kernel
  have rollbackPoint : optional? text? report.found "rollbackPoint" = some report.rollbackPoint :=
    optional?_optionalText rfl
  have log : report.found.listMember? text? "executionLog" = some report.log := listMember?_texts rfl
  have details : details? report.details.found = some report.details := details?_found report.details
  change ((Mode.read? report.mode.name).bind _) = _
  rw [mode, rollbackPoint, log]
  change (details? report.details.found).bind _ = _
  rw [details]
  rfl

/-- A report is read back from its text if the numbers of its violations are read from theirs. -/
theorem read_pretty {report : Report} (legible : report.details.Every Violation.Legible) :
    read report.toJson.pretty = .ok report := by
  rw [read, (reads_report legible).read_pretty]
  simp only [bind, Except.bind, ofJson?_found]

end Report

end IntentRollout
