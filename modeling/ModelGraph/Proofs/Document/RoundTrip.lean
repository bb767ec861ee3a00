import ModelGraph.Document.Write
import ModelGraph.Proofs.Document.Layout

/-!
# Reading what was written

A document is written with all fields of all records under their camel-case keys
(`inFull_toValue`), and what was written is read as the same document (`read_toValue`). The one thing
that a document can be written with and not be read is an argument that accepts no type; no value is
read as such a document, so every document that was read can be written and read again
(`document_toValue`).
-/

namespace ModelGraph.Document

open Validation

/-! ## Written values -/

@[simp] theorem text_text (s : String) : Validation.text (.text s) = .ok s := rfl

@[simp] theorem flag_bool (b : Bool) : flag (.bool b) = .ok b := rfl

@[simp] theorem optionalText_optionalText (s : Option String) :
    optionalText (.optionalText s) = .ok s := by
  cases s <;> rfl

@[simp] theorem optionalObject_deprecationToValue (entries : Option Entries) :
    optionalObject (deprecationToValue entries) = .ok entries := by
  cases entries <;> rfl

@[simp] theorem FieldKind.read_name (kind : FieldKind) :
    FieldKind.read (.text kind.name) = .ok kind := by
  cases kind <;> rfl

/-- A list is read item by item, as it was written. -/
theorem listOf_map {α : Type} {read : Reader α} {write : α → Value} {as : List α}
    (h : ∀ a ∈ as, read (write a) = .ok a) : listOf read (.list (as.map write)) = .ok as := by
  refine listOf_eq_ok_iff.2 ⟨_, rfl, ?_⟩
  rw [List.forall₂_map_left_iff, List.forall₂_same]
  exact h

@[simp] theorem listOf_textsToValue (texts : List String) :
    listOf Validation.text (textsToValue texts) = .ok texts :=
  listOf_map fun _ _ => rfl

/-! ## The records of a document -/

/-- Every argument of the operation accepts a type. -/
def Operation.ArgsTyped (o : Operation) : Prop :=
  ∀ arg ∈ o.args, arg.inputTypes ≠ []

/-- Every argument of the operations of the output type accepts a type. -/
def OutputType.ArgsTyped (t : OutputType) : Prop :=
  ∀ operation ∈ t.fields, operation.ArgsTyped

/-- Every argument of the output types accepts a type. -/
def OutputTypes.ArgsTyped (t : OutputTypes) : Prop :=
  ∀ type ∈ t.client ++ t.model, type.ArgsTyped

/-- Every argument of the document accepts a type. -/
def ArgsTyped (d : Document) : Prop :=
  d.schema.outputTypes.ArgsTyped

@[simp] theorem Field.read_toValue (f : Field) : Field.read f.toValue = .ok f := by
  simp only [Field.read, toValue, Value.record, record]
  rw [required_record rfl, required_record rfl, required_record rfl, optional_record rfl,
    optional_record rfl, optional_record rfl, optional_record rfl, optional_record rfl,
    optional_record rfl, optional_record rfl, optional_record rfl, optional_record rfl,
    optional_record rfl, optional_record rfl]
  simp

@[simp] theorem Index.read_toValue (label : String) (i : Index) :
    Index.read label i.toValue = .ok i := by
  simp only [Index.read, toValue, Value.record, record]
  rw [optional_record rfl, optional_record rfl]
  simp

@[simp] theorem Index.readUnique_toValue (i : Index) : Index.readUnique i.toValue = .ok i :=
  Index.read_toValue _ i

@[simp] theorem Index.readPrimary_optionalToValue (i : Option Index) :
    Index.readPrimary (Index.optionalToValue i) = .ok i := by
  cases i with
  | none => rfl
  | some i =>
      show some <$> Index.read "PrimaryKeyDescriptor" i.toValue = .ok (some i)
      simp

@[simp] theorem Model.read_toValue (m : Model) : Model.read m.toValue = .ok m := by
  simp only [Model.read, toValue, Value.record, record]
  rw [required_record rfl, optional_record rfl, optional_record rfl, optional_record rfl,
    optional_record rfl, optional_record rfl, optional_record rfl,
    listOf_map fun f _ => Field.read_toValue f,
    listOf_map fun texts _ => listOf_textsToValue texts,
    listOf_map fun i _ => Index.readUnique_toValue i]
  simp

@[simp] theorem EnumValue.read_toValue (v : EnumValue) : EnumValue.read v.toValue = .ok v := by
  simp only [EnumValue.read, toValue, Value.record, record]
  rw [required_record rfl, optional_record rfl]
  simp

@[simp] theorem Enumeration.read_toValue (e : Enumeration) :
    Enumeration.read e.toValue = .ok e := by
  simp only [Enumeration.read, toValue, Value.record, record]
  rw [required_record rfl, optional_record rfl, optional_record rfl, optional_record rfl,
    listOf_map fun v _ => EnumValue.read_toValue v]
  simp

@[simp] theorem TypeRef.read_toValue (t : TypeRef) : TypeRef.read t.toValue = .ok t := by
  simp only [TypeRef.read, toValue, Value.record, record]
  rw [required_record rfl, optional_record rfl, optional_record rfl, optional_record rfl]
  simp

/-- An argument is read as it was written when it accepts a type. -/
theorem Arg.read_toValue {a : Arg} (h : a.inputTypes ≠ []) : Arg.read a.toValue = .ok a := by
  have htypes : nonemptyListOf TypeRef.read (.list (a.inputTypes.map TypeRef.toValue)) =
      .ok a.inputTypes :=
    nonemptyListOf_eq_ok_iff.2 ⟨listOf_map fun t _ => t.read_toValue, h⟩
  simp only [Arg.read, toValue, Value.record, record]
  rw [required_record rfl, optional_record rfl, optional_record rfl, required_record rfl,
    optional_record rfl, htypes]
  simp

theorem Operation.read_toValue {o : Operation} (h : o.ArgsTyped) :
    Operation.read o.toValue = .ok o := by
  simp only [Operation.read, toValue, Value.record, record]
  rw [required_record rfl, optional_record rfl, required_record rfl, optional_record rfl,
    optional_record rfl, optional_record rfl,
    listOf_map fun arg harg => Arg.read_toValue (h arg harg)]
  simp

theorem OutputType.read_toValue {t : OutputType} (h : t.ArgsTyped) :
    OutputType.read t.toValue = .ok t := by
  simp only [OutputType.read, toValue, Value.record, record]
  rw [required_record rfl, optional_record rfl,
    listOf_map fun operation hoperation => Operation.read_toValue (h operation hoperation)]
  simp

theorem OutputTypes.read_toValue {t : OutputTypes} (h : t.ArgsTyped) :
    OutputTypes.read t.toValue = .ok t := by
  simp only [OutputTypes.read, toValue, Value.record, record]
  rw [optional_record rfl, optional_record rfl,
    listOf_map fun type htype => OutputType.read_toValue (h type (List.mem_append_left _ htype)),
    listOf_map fun type htype => OutputType.read_toValue (h type (List.mem_append_right _ htype))]
  simp

@[simp] theorem Datamodel.read_toValue (d : Datamodel) : Datamodel.read d.toValue = .ok d := by
  simp only [Datamodel.read, toValue, Value.record, record]
  rw [optional_record rfl, optional_record rfl, listOf_map fun m _ => Model.read_toValue m,
    listOf_map fun e _ => Enumeration.read_toValue e]
  simp

/-- A document is read as it was written when all of its arguments accept a type. -/
theorem read_toValue {d : Document} (h : d.ArgsTyped) : Document.read d.toValue = .ok d := by
  have hschema : Schema.read d.schema.toValue = .ok d.schema := by
    simp only [Schema.read, Schema.toValue, Value.record, record]
    rw [optional_record rfl, OutputTypes.read_toValue h]
    simp
  simp only [Document.read, toValue, Value.record, record]
  rw [required_record rfl, optional_record rfl, hschema]
  simp

/-! ## Documents that were read -/

/-- What holds of everything that a reader gives holds of all items of a field with a list. -/
theorem forall_of_optional_listOf {α : Type} {key : FieldKey} {read : Reader α}
    {entries : Entries} {as : List α} {P : α → Prop}
    (hread : ∀ value a, read value = .ok a → P a)
    (h : Validation.optional key [] (listOf read) entries = .ok as) : ∀ a ∈ as, P a := by
  intro a ha
  rcases optional_eq_ok_iff.1 h with ⟨-, rfl⟩ | ⟨_, _, -, hlist⟩
  · cases ha
  · obtain ⟨item, hitem⟩ := exists_of_mem_of_listOf hlist ha
    exact hread item a hitem

theorem Arg.inputTypes_ne_nil_of_read {value : Value} {a : Arg} (h : Arg.read value = .ok a) :
    a.inputTypes ≠ [] := by
  obtain ⟨entries, -, h⟩ := record_eq_ok_iff.1 h
  simp only [Checked.seq_eq_ok_iff, Checked.map_eq_ok_iff] at h
  obtain ⟨_, _, ⟨_, _, ⟨_, _, ⟨_, _, ⟨_, _, rfl⟩, _, rfl⟩, _, rfl⟩, htypes, rfl⟩, _, rfl⟩ := h
  obtain ⟨_, _, -, hlist⟩ := required_eq_ok_iff.1 htypes
  exact (nonemptyListOf_eq_ok_iff.1 hlist).2

theorem Operation.argsTyped_of_read {value : Value} {o : Operation}
    (h : Operation.read value = .ok o) : o.ArgsTyped := by
  obtain ⟨entries, -, h⟩ := record_eq_ok_iff.1 h
  simp only [Checked.seq_eq_ok_iff, Checked.map_eq_ok_iff] at h
  obtain ⟨_, _, ⟨_, _, ⟨_, _, ⟨_, _, ⟨_, _, ⟨_, _, rfl⟩, _, rfl⟩, _, rfl⟩, hargs, rfl⟩, _, rfl⟩, _,
    rfl⟩ := h
  exact forall_of_optional_listOf (fun _ _ => Arg.inputTypes_ne_nil_of_read) hargs

theorem OutputType.argsTyped_of_read {value : Value} {t : OutputType}
    (h : OutputType.read value = .ok t) : t.ArgsTyped := by
  obtain ⟨entries, -, h⟩ := record_eq_ok_iff.1 h
  simp only [Checked.seq_eq_ok_iff, Checked.map_eq_ok_iff] at h
  obtain ⟨_, _, ⟨_, _, rfl⟩, hfields, rfl⟩ := h
  exact forall_of_optional_listOf (fun _ _ => Operation.argsTyped_of_read) hfields

theorem OutputTypes.argsTyped_of_read {value : Value} {t : OutputTypes}
    (h : OutputTypes.read value = .ok t) : t.ArgsTyped := by
  obtain ⟨entries, -, h⟩ := record_eq_ok_iff.1 h
  simp only [Checked.seq_eq_ok_iff, Checked.map_eq_ok_iff] at h
  obtain ⟨_, _, ⟨_, hclient, rfl⟩, hmodel, rfl⟩ := h
  exact List.forall_mem_append.2
    ⟨forall_of_optional_listOf (fun _ _ => OutputType.argsTyped_of_read) hclient,
      forall_of_optional_listOf (fun _ _ => OutputType.argsTyped_of_read) hmodel⟩

theorem Schema.argsTyped_of_read {value : Value} {s : Schema} (h : Schema.read value = .ok s) :
    s.outputTypes.ArgsTyped := by
  obtain ⟨entries, -, h⟩ := record_eq_ok_iff.1 h
  obtain ⟨types, htypes, rfl⟩ := Checked.map_eq_ok_iff.1 h
  rcases optional_eq_ok_iff.1 htypes with ⟨-, rfl⟩ | ⟨_, _, -, hread⟩
  · exact List.forall_mem_nil _
  · exact OutputTypes.argsTyped_of_read hread

/-- No value is read as a document in which an argument accepts no type. -/
theorem argsTyped_of_read {value : Value} {d : Document} (h : Document.read value = .ok d) :
    d.ArgsTyped := by
  obtain ⟨entries, -, h⟩ := record_eq_ok_iff.1 h
  simp only [Checked.seq_eq_ok_iff, Checked.map_eq_ok_iff] at h
  obtain ⟨_, schema, ⟨_, _, rfl⟩, hschema, rfl⟩ := h
  rcases optional_eq_ok_iff.1 hschema with ⟨-, rfl⟩ | ⟨_, _, -, hread⟩
  · exact List.forall_mem_nil _
  · exact Schema.argsTyped_of_read hread

/-! ## Records in full -/

mutual

/-- A value has a record in full: all fields of the kind in order, under their camel-case keys. -/
inductive InFull : RecordKind → Value → Prop
  | record {kind : RecordKind} {entries : Entries} (h : SlotsInFull kind.slots entries) :
      InFull kind (.object entries)

/-- The entries are those of the fields. -/
inductive SlotsInFull : List Slot → Entries → Prop
  | nil : SlotsInFull [] []
  | cons {slot : Slot} {slots : List Slot} {value : Value} {entries : Entries}
      (hvalue : ContentInFull slot.content value) (hrest : SlotsInFull slots entries) :
      SlotsInFull (slot :: slots) ((.text slot.key.main, value) :: entries)

/-- The value of a field has the records that the field holds in full. -/
inductive ContentInFull : Content → Value → Prop
  | plain {value : Value} : ContentInFull .plain value
  | one {kind : RecordKind} {value : Value} (h : InFull kind value) :
      ContentInFull (.one kind) value
  /-- A model may have no primary key. -/
  | noPrimaryKey : ContentInFull (.one .primaryKey) .null
  | many {kind : RecordKind} {items : List Value} (h : ∀ item ∈ items, InFull kind item) :
      ContentInFull (.many kind) (.list items)

end

theorem ContentInFull.many_map {α : Type} {kind : RecordKind} {write : α → Value}
    (h : ∀ a, InFull kind (write a)) (as : List α) :
    ContentInFull (.many kind) (.list (as.map write)) :=
  .many (List.forall_mem_map.2 fun a _ => h a)

theorem Field.inFull_toValue (f : Field) : InFull .field f.toValue := by
  -- None of its fields holds a record.
  repeat' constructor

theorem Index.inFull_toValue {kind : RecordKind} (hkind : kind.slots = RecordKind.indexSlots)
    (i : Index) : InFull kind i.toValue :=
  .record (hkind ▸ .cons .plain (.cons .plain .nil))

theorem Index.primaryInFull_optionalToValue (i : Option Index) :
    ContentInFull (.one .primaryKey) (Index.optionalToValue i) := by
  cases i with
  | none => exact .noPrimaryKey
  | some i => exact .one (i.inFull_toValue rfl)

theorem Model.inFull_toValue (m : Model) : InFull .model m.toValue := by
  have hfields := ContentInFull.many_map Field.inFull_toValue m.fields
  have hindexes : ContentInFull (.many .uniqueIndex) (.list (m.uniqueIndexes.map Index.toValue)) :=
    .many_map (Index.inFull_toValue rfl) m.uniqueIndexes
  have hprimary := Index.primaryInFull_optionalToValue m.primaryKey
  exact .record (.cons .plain (.cons .plain (.cons hfields (.cons .plain (.cons hindexes
    (.cons hprimary (.cons .plain .nil)))))))

theorem EnumValue.inFull_toValue (v : EnumValue) : InFull .enumValue v.toValue :=
  .record (.cons .plain (.cons .plain .nil))

theorem Enumeration.inFull_toValue (e : Enumeration) : InFull .enumeration e.toValue := by
  have hvalues := ContentInFull.many_map EnumValue.inFull_toValue e.values
  exact .record (.cons .plain (.cons hvalues (.cons .plain (.cons .plain .nil))))

theorem TypeRef.inFull_toValue (t : TypeRef) : InFull .typeRef t.toValue :=
  .record (.cons .plain (.cons .plain (.cons .plain (.cons .plain .nil))))

theorem Arg.inFull_toValue (a : Arg) : InFull .arg a.toValue := by
  have hinputs := ContentInFull.many_map TypeRef.inFull_toValue a.inputTypes
  exact .record (.cons .plain (.cons .plain (.cons .plain (.cons hinputs (.cons .plain .nil)))))

theorem Operation.inFull_toValue (o : Operation) : InFull .operation o.toValue := by
  have houtput := ContentInFull.one o.outputType.inFull_toValue
  have hargs := ContentInFull.many_map Arg.inFull_toValue o.args
  exact .record (.cons .plain (.cons .plain (.cons houtput (.cons hargs (.cons .plain
    (.cons .plain .nil))))))

theorem OutputType.inFull_toValue (t : OutputType) : InFull .outputType t.toValue := by
  have hfields := ContentInFull.many_map Operation.inFull_toValue t.fields
  exact .record (.cons .plain (.cons hfields .nil))

theorem OutputTypes.inFull_toValue (t : OutputTypes) : InFull .outputTypes t.toValue := by
  have hclient := ContentInFull.many_map OutputType.inFull_toValue t.client
  have hmodel := ContentInFull.many_map OutputType.inFull_toValue t.model
  exact .record (.cons hclient (.cons hmodel .nil))

theorem Schema.inFull_toValue (s : Schema) : InFull .schema s.toValue :=
  .record (.cons (.one s.outputTypes.inFull_toValue) .nil)

theorem Datamodel.inFull_toValue (d : Datamodel) : InFull .datamodel d.toValue := by
  have hmodels := ContentInFull.many_map Model.inFull_toValue d.models
  have henums := ContentInFull.many_map Enumeration.inFull_toValue d.enums
  exact .record (.cons hmodels (.cons henums .nil))

/-- A document is written with all fields of all of its records. -/
theorem inFull_toValue (d : Document) : InFull .document d.toValue := by
  have hdatamodel := ContentInFull.one d.datamodel.inFull_toValue
  have hschema := ContentInFull.one d.schema.inFull_toValue
  exact .record (.cons hdatamodel (.cons hschema .nil))

/-! ## The round trip -/

/-- A document that a value describes is written in full, and what was written describes the same
document. -/
theorem document_toValue {raw : Value} {d : Document} (h : Graph.document raw = .ok d) :
    InFull .document d.toValue ∧ Graph.document d.toValue = .ok d :=
  ⟨d.inFull_toValue, Graph.document_eq_ok_iff.2
    (read_toValue (argsTyped_of_read (Graph.document_eq_ok_iff.1 h)))⟩

/-- A value with snake-case keys, a flag in words, and most fields left out. -/
def sparseDocument : Value :=
  .record
    [("datamodel", .record
      [("models", .list [.record
        [("name", .text "User"), ("primary_key", .record []),
         ("fields", .list [.record
           [("name", .text "posts"), ("kind", .text "object"), ("type", .text "Post"),
            ("is_list", .text "Yes")]])]])]),
     ("prisma_schema", .record
      [("outputObjectTypes", .record
        [("prisma", .list [.record
          [("name", .text "Query"),
           ("fields", .list [.record
             [("name", .text "findManyUser"), ("output_type", .record [("type", .text "User")]),
              ("args", .list [.record
                [("name", .text "where"),
                 ("inputTypes", .list [.record [("type", .text "UserWhereInput")]])]])]])]])])])]

/-- What a sparse value leaves out is written, and read again. -/
theorem document_toValue_of_sparse :
    ∃ d, Graph.document sparseDocument = .ok d ∧ InFull .document d.toValue ∧
      Graph.document d.toValue = .ok d := by
  obtain ⟨d, hd⟩ := Checked.isOk_iff.1
    (show (Document.read sparseDocument).isOk = true by decide)
  have hread := Graph.document_eq_ok_iff.2 hd
  exact ⟨d, hread, document_toValue hread⟩

end ModelGraph.Document
