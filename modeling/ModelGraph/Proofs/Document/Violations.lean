import ModelGraph.Proofs.Document.Layout
import ModelGraph.Proofs.Validation.Violations

/-!
# Malformed documents

What is wrong with a record is what is wrong with its fields, field after field
(`RecordKind.violations_read`). A value that is no document has violations
(`exists_document_iff`), and all of them are in the report on it (`report_document`).
-/

namespace ModelGraph.Document

open Validation

/-! ## Records -/

/-- A field that is read by a reader with reasons has reasons. -/
theorem Slot.explained_get {slot : Slot} (h : Reader.Explains slot.read) (entries : Entries) :
    (slot.get entries).Explained := by
  unfold Slot.get
  split
  · exact explained_required h entries
  · exact explained_optional h entries

namespace RecordKind

/-- The violations in a record are those in its fields, in the order of the fields. -/
theorem violations_read (kind : RecordKind) (entries : Entries) :
    (kind.read (.object entries)).violations =
      kind.slots.flatMap fun slot => (slot.get entries).violations := by
  cases kind
  all_goals
    dsimp only [Record]
    simp only [read, Document.read, Datamodel.read, Model.read, Field.read, Index.readUnique,
      Index.read, Enumeration.read, EnumValue.read, Schema.read, OutputTypes.read, OutputType.read,
      Operation.read, Arg.read, TypeRef.read, record, Checked.violations_map,
      Checked.violations_seq, slots, indexSlots, List.flatMap_cons, List.flatMap_nil,
      List.append_assoc, List.append_nil]
    rfl

/-- A record can be read when its fields can. -/
theorem isOk_read (kind : RecordKind) (entries : Entries) :
    (kind.read (.object entries)).isOk = kind.slots.all fun slot => (slot.get entries).isOk := by
  cases kind
  all_goals
    dsimp only [Record]
    simp only [read, Document.read, Datamodel.read, Model.read, Field.read, Index.readUnique,
      Index.read, Enumeration.read, EnumValue.read, Schema.read, OutputTypes.read, OutputType.read,
      Operation.read, Arg.read, TypeRef.read, record, Checked.isOk_map, Checked.isOk_seq, slots,
      indexSlots, List.all_cons, List.all_nil, Bool.and_assoc, Bool.and_true]
    rfl

/-- What is no object is no record, and that is all there is to say. -/
theorem read_eq_refuse (kind : RecordKind) (value : Value)
    (h : ∀ entries, value ≠ .object entries) : ∃ cause, kind.read value = .refuse cause := by
  cases value with
  | object entries => exact absurd rfl (h entries)
  | scalar a => cases kind <;> exact ⟨_, rfl⟩
  | list items => cases kind <;> exact ⟨_, rfl⟩

theorem explains_read_of_slots (kind : RecordKind)
    (h : kind.slots.Forall fun slot => Reader.Explains slot.read) : Reader.Explains kind.read := by
  intro value
  cases value with
  | object entries =>
      intro hnone
      rw [violations_read, List.flatMap_eq_nil_iff] at hnone
      rw [isOk_read, List.all_eq_true]
      intro slot hslot
      exact Slot.explained_get (List.forall_iff_forall_mem.1 h slot hslot) entries
        (hnone slot hslot)
  | scalar a =>
      obtain ⟨cause, hrefuse⟩ := read_eq_refuse kind (.scalar a) (by simp)
      rw [hrefuse]
      exact Checked.explained_refuse cause
  | list items =>
      obtain ⟨cause, hrefuse⟩ := read_eq_refuse kind (.list items) (by simp)
      rw [hrefuse]
      exact Checked.explained_refuse cause

theorem explains_fieldKind : Reader.Explains FieldKind.read := by
  intro value
  unfold FieldKind.read
  split
  · exact Checked.explained_ok _
  · exact Checked.explained_ok _
  · exact Checked.explained_ok _
  · exact Checked.explained_refuse _

theorem explains_readPrimary (h : Reader.Explains (Index.read "PrimaryKeyDescriptor")) :
    Reader.Explains Index.readPrimary := by
  intro value
  unfold Index.readPrimary
  split
  · exact Checked.explained_ok none
  · exact (h _).map some

/-- Every failure of a record has something to report. -/
theorem explains_read (kind : RecordKind) : Reader.Explains kind.read := by
  -- From the records without records inside up to the document.
  have hfield := explains_read_of_slots .field
    ⟨explains_text, explains_fieldKind, explains_text, explains_flag, explains_flag,
      explains_flag, explains_flag, explains_flag, explains_flag, explains_flag,
      explains_optionalText, explains_optionalText, explains_optionalText,
      explains_listOf explains_text⟩
  have hprimary := explains_read_of_slots .primaryKey
    ⟨explains_optionalText, explains_listOf explains_text⟩
  have hunique := explains_read_of_slots .uniqueIndex
    ⟨explains_optionalText, explains_listOf explains_text⟩
  have hmodel := explains_read_of_slots .model
    ⟨explains_text, explains_optionalText, explains_listOf hfield,
      explains_listOf (explains_listOf explains_text), explains_listOf hunique,
      explains_readPrimary hprimary, explains_optionalText⟩
  have henumValue := explains_read_of_slots .enumValue
    ⟨explains_text, explains_optionalText⟩
  have henumeration := explains_read_of_slots .enumeration
    ⟨explains_text, explains_listOf henumValue, explains_optionalText, explains_optionalText⟩
  have hdatamodel := explains_read_of_slots .datamodel
    ⟨explains_listOf hmodel, explains_listOf henumeration⟩
  have htypeRef := explains_read_of_slots .typeRef
    ⟨explains_text, explains_text, explains_optionalText, explains_flag⟩
  have harg := explains_read_of_slots .arg
    ⟨explains_text, explains_flag, explains_flag, explains_nonemptyListOf htypeRef,
      explains_optionalObject⟩
  have hoperation := explains_read_of_slots .operation
    ⟨explains_text, explains_flag, htypeRef, explains_listOf harg, explains_optionalObject,
      explains_optionalText⟩
  have houtputType := explains_read_of_slots .outputType
    ⟨explains_text, explains_listOf hoperation⟩
  have houtputTypes := explains_read_of_slots .outputTypes
    ⟨explains_listOf houtputType, explains_listOf houtputType⟩
  have hschema := explains_read_of_slots .schema houtputTypes
  have hdocument := explains_read_of_slots .document ⟨hdatamodel, hschema⟩
  cases kind <;> assumption

end RecordKind

/-! ## Documents -/

/-- A value describes a document exactly when nothing is wrong with it. -/
theorem exists_document_iff {raw : Value} :
    (∃ d, Graph.document raw = .ok d) ↔ (Document.read raw).violations = [] := by
  have hexplained : (Document.read raw).Explained := RecordKind.explains_read .document raw
  rw [hexplained.violations_eq_nil_iff, Checked.isOk_iff]
  exact exists_congr fun d => Graph.document_eq_ok_iff

/-- A value with violations is refused with all of them. -/
theorem document_eq_error {raw : Value} (h : (Document.read raw).violations ≠ []) :
    Graph.document raw = .error (.document (Document.read raw).violations) := by
  unfold Graph.document
  cases hread : Document.read raw with
  | ok d =>
      rw [hread] at h
      exact absurd rfl h
  | refused vs => rfl

/-- A violation is never described by nothing. -/
theorem describe_ne_empty (root : String) (v : Violation) : v.describe root ≠ "" := by
  intro hempty
  have hletters := congrArg String.length hempty
  simp [Violation.describe] at hletters

/-- The text of violations is not empty, so it is a detail that is shown. -/
theorem violationText_ne_empty (root : String) {vs : List Violation} (h : vs ≠ []) :
    Failure.violationText root vs ≠ "" := by
  obtain ⟨v, rest, rfl⟩ := List.exists_cons_of_ne_nil h
  rw [Failure.violationText, List.map_cons]
  cases rest with
  | nil =>
      rw [List.map_nil, String.intercalate_singleton]
      exact describe_ne_empty root v
  | cons w rest =>
      rw [List.map_cons, String.intercalate_cons_cons]
      intro hempty
      have hletters := congrArg String.length hempty
      simp at hletters

/-- The report on a malformed document has the descriptions of all violations, in their order. -/
theorem report_document {vs : List Violation} (h : vs ≠ []) :
    (Failure.document vs).report = .ok
      { message := .text "Raw model description is malformed"
        code := .text "SCHEMA_INPUT_ERROR"
        context := [(.text "errors", .text ("; ".intercalate (vs.map (Violation.describe ""))))]
        suggestions := Report.Kind.document.suggestions.map Value.text } := by
  have htruthy : (Value.text (Failure.violationText "" vs)).truthy = true := by
    simpa [Value.truthy, Scalar.truthy] using violationText_ne_empty "" h
  have hshown : [("errors", Value.text (Failure.violationText "" vs))].filter
      (fun detail => detail.2.truthy) = [("errors", .text (Failure.violationText "" vs))] :=
    List.filter_cons_of_pos htruthy
  rw [Failure.report, Report.plain, Report.addDetails, hshown]
  rfl

end ModelGraph.Document
