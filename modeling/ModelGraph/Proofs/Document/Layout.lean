import ModelGraph.Graph.Basic
import ModelGraph.Proofs.Validation.Keys
import ModelGraph.Proofs.Validation.Success

/-!
# The layout of documents

The records of a document are of fourteen kinds, and each kind has a fixed list of fields: under
which keys a field is looked for, how its value is read, what it stands for when it is absent, and
which records its value holds. A record is read by its fields alone: what is read of each of them is
read of the record (`RecordKind.kept_read`).
-/

namespace ModelGraph

open Validation

/-- A value describes a document exactly when it can be read as one. -/
theorem Graph.document_eq_ok_iff {raw : Value} {d : Document} :
    Graph.document raw = .ok d ↔ Document.read raw = .ok d :=
  Checked.toExcept_eq_ok_iff

namespace Document

/-- The kinds of records in a document. -/
inductive RecordKind where
  | document
  | datamodel
  | model
  | field
  | primaryKey
  | uniqueIndex
  | enumeration
  | enumValue
  | schema
  | outputTypes
  | outputType
  | operation
  | arg
  | typeRef
  deriving DecidableEq, Repr

/-- The records that the value of a field holds. -/
inductive Content where
  | plain
  | one (kind : RecordKind)
  | many (kind : RecordKind)
  deriving DecidableEq, Repr

/-- A field of a kind of records. -/
structure Slot where
  {α : Type}
  key : FieldKey
  read : Reader α
  /-- What the field stands for when it is absent. A field without this has to be there. -/
  fallback : Option α
  content : Content

namespace Slot

/-- A field that has to be there. -/
def needed {α : Type} (key : FieldKey) (read : Reader α) (content : Content) : Slot :=
  ⟨key, read, none, content⟩

/-- A field that stands for `fallback` when it is absent. -/
def free {α : Type} (key : FieldKey) (fallback : α) (read : Reader α) (content : Content) : Slot :=
  ⟨key, read, some fallback, content⟩

/-- Reads the field from the entries of a record. -/
def get (slot : Slot) (entries : Entries) : Checked slot.α :=
  match slot.fallback with
  | none => required slot.key slot.read entries
  | some fallback => Validation.optional slot.key fallback slot.read entries

end Slot

namespace RecordKind

/-- What a record of a kind stands for. -/
def Record : RecordKind → Type
  | .document => Document
  | .datamodel => Datamodel
  | .model => Model
  | .field => Field
  | .primaryKey => Index
  | .uniqueIndex => Index
  | .enumeration => Enumeration
  | .enumValue => EnumValue
  | .schema => Schema
  | .outputTypes => OutputTypes
  | .outputType => OutputType
  | .operation => Operation
  | .arg => Arg
  | .typeRef => TypeRef

/-- Reads a record of a kind. -/
def read : (kind : RecordKind) → Reader kind.Record
  | .document => Document.read
  | .datamodel => Datamodel.read
  | .model => Model.read
  | .field => Field.read
  | .primaryKey => Index.read "PrimaryKeyDescriptor"
  | .uniqueIndex => Index.readUnique
  | .enumeration => Enumeration.read
  | .enumValue => EnumValue.read
  | .schema => Schema.read
  | .outputTypes => OutputTypes.read
  | .outputType => OutputType.read
  | .operation => Operation.read
  | .arg => Arg.read
  | .typeRef => TypeRef.read

/-- The fields of primary keys and unique indexes. -/
def indexSlots : List Slot :=
  [.free Key.name none optionalText .plain,
   .free Key.fields [] (listOf text) .plain]

/-- The fields of each kind of records. -/
def slots : RecordKind → List Slot
  | .document =>
      [.needed (.single "datamodel") Datamodel.read (.one .datamodel),
       .free ⟨"schema", "prisma_schema"⟩ ⟨⟨[], []⟩⟩ Schema.read (.one .schema)]
  | .datamodel =>
      [.free (.single "models") [] (listOf Model.read) (.many .model),
       .free (.single "enums") [] (listOf Enumeration.read) (.many .enumeration)]
  | .model =>
      [.needed Key.name text .plain,
       .free Key.dbName none optionalText .plain,
       .free Key.fields [] (listOf Field.read) (.many .field),
       .free ⟨"uniqueFields", "unique_fields"⟩ [] (listOf (listOf text)) .plain,
       .free ⟨"uniqueIndexes", "unique_indexes"⟩ [] (listOf Index.readUnique) (.many .uniqueIndex),
       .free ⟨"primaryKey", "primary_key"⟩ none Index.readPrimary (.one .primaryKey),
       .free Key.documentation none optionalText .plain]
  | .field =>
      [.needed Key.name text .plain,
       .needed (.single "kind") FieldKind.read .plain,
       .needed (.single "type") text .plain,
       .free ⟨"isList", "is_list"⟩ false flag .plain,
       .free ⟨"isRequired", "is_required"⟩ false flag .plain,
       .free ⟨"isUnique", "is_unique"⟩ false flag .plain,
       .free ⟨"isId", "is_id"⟩ false flag .plain,
       .free ⟨"isReadOnly", "is_read_only"⟩ false flag .plain,
       .free ⟨"isUpdatedAt", "is_updated_at"⟩ false flag .plain,
       .free ⟨"hasDefaultValue", "has_default_value"⟩ false flag .plain,
       .free Key.dbName none optionalText .plain,
       .free ⟨"relationName", "relation_name"⟩ none optionalText .plain,
       .free Key.documentation none optionalText .plain,
       .free (.single "omit") [] (listOf text) .plain]
  | .primaryKey => indexSlots
  | .uniqueIndex => indexSlots
  | .enumeration =>
      [.needed Key.name text .plain,
       .free (.single "values") [] (listOf EnumValue.read) (.many .enumValue),
       .free Key.dbName none optionalText .plain,
       .free Key.documentation none optionalText .plain]
  | .enumValue =>
      [.needed Key.name text .plain,
       .free Key.dbName none optionalText .plain]
  | .schema =>
      [.free ⟨"outputObjectTypes", "output_object_types"⟩ ⟨[], []⟩ OutputTypes.read
        (.one .outputTypes)]
  | .outputTypes =>
      [.free (.single "prisma") [] (listOf OutputType.read) (.many .outputType),
       .free (.single "model") [] (listOf OutputType.read) (.many .outputType)]
  | .outputType =>
      [.needed Key.name text .plain,
       .free Key.fields [] (listOf Operation.read) (.many .operation)]
  | .operation =>
      [.needed Key.name text .plain,
       .free ⟨"isNullable", "is_nullable"⟩ false flag .plain,
       .needed ⟨"outputType", "output_type"⟩ TypeRef.read (.one .typeRef),
       .free (.single "args") [] (listOf Arg.read) (.many .arg),
       .free Key.deprecation none optionalObject .plain,
       .free Key.documentation none optionalText .plain]
  | .arg =>
      [.needed Key.name text .plain,
       .free ⟨"isRequired", "is_required"⟩ false flag .plain,
       .free ⟨"isNullable", "is_nullable"⟩ false flag .plain,
       .needed ⟨"inputTypes", "input_types"⟩ (nonemptyListOf TypeRef.read) (.many .typeRef),
       .free Key.deprecation none optionalObject .plain]
  | .typeRef =>
      [.needed (.single "type") text .plain,
       .free (.single "location") "scalar" text .plain,
       .free (.single "namespace") none optionalText .plain,
       .free ⟨"isList", "is_list"⟩ false flag .plain]

/-- A record is read by its fields: where each of them is read as before, the record is. -/
theorem kept_read {kind : RecordKind} {entries others : Entries}
    (h : kind.slots.Forall fun slot => (slot.get entries).Kept (slot.get others)) :
    (kind.read (.object entries)).Kept (kind.read (.object others)) := by
  cases kind with
  | document =>
      obtain ⟨hdatamodel, hschema⟩ := h
      exact (hdatamodel.map Document.mk).seq hschema
  | datamodel =>
      obtain ⟨hmodels, henums⟩ := h
      exact (hmodels.map Datamodel.mk).seq henums
  | model =>
      obtain ⟨hname, hdbName, hfields, huniqueFields, hindexes, hprimary, hdocumentation⟩ := h
      exact ((((((hname.map Model.mk).seq hdbName).seq hfields).seq huniqueFields).seq
        hindexes).seq hprimary).seq hdocumentation
  | field =>
      obtain ⟨hname, hkind, htype, hlist, hrequired, hunique, hid, hreadOnly, hupdatedAt, hdefault,
        hdbName, hrelation, hdocumentation, homit⟩ := h
      exact (((((((((((((hname.map Field.mk).seq hkind).seq htype).seq hlist).seq hrequired).seq
        hunique).seq hid).seq hreadOnly).seq hupdatedAt).seq hdefault).seq hdbName).seq
        hrelation).seq hdocumentation).seq homit
  | primaryKey =>
      obtain ⟨hname, hfields⟩ := h
      exact (hname.map Index.mk).seq hfields
  | uniqueIndex =>
      obtain ⟨hname, hfields⟩ := h
      exact (hname.map Index.mk).seq hfields
  | enumeration =>
      obtain ⟨hname, hvalues, hdbName, hdocumentation⟩ := h
      exact (((hname.map Enumeration.mk).seq hvalues).seq hdbName).seq hdocumentation
  | enumValue =>
      obtain ⟨hname, hdbName⟩ := h
      exact (hname.map EnumValue.mk).seq hdbName
  | schema => exact Checked.Kept.map Schema.mk h
  | outputTypes =>
      obtain ⟨hclient, hmodel⟩ := h
      exact (hclient.map OutputTypes.mk).seq hmodel
  | outputType =>
      obtain ⟨hname, hfields⟩ := h
      exact (hname.map OutputType.mk).seq hfields
  | operation =>
      obtain ⟨hname, hnullable, houtput, hargs, hdeprecation, hdocumentation⟩ := h
      exact (((((hname.map Operation.mk).seq hnullable).seq houtput).seq hargs).seq
        hdeprecation).seq hdocumentation
  | arg =>
      obtain ⟨hname, hrequired, hnullable, hinputs, hdeprecation⟩ := h
      exact ((((hname.map Arg.mk).seq hrequired).seq hnullable).seq hinputs).seq hdeprecation
  | typeRef =>
      obtain ⟨htype, hlocation, hnamespace, hlist⟩ := h
      exact (((htype.map TypeRef.mk).seq hlocation).seq hnamespace).seq hlist

end RecordKind

end Document

end ModelGraph
