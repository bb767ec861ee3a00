import ModelGraph.Document.Basic
import ModelGraph.Validation.Reader

/-!
# Reading a document

Every record is read field by field in a fixed order, and all violations are reported. A key may
be written in camel case or in snake case; keys that no field has are passed over.
-/

namespace ModelGraph.Document

open Validation

/-- Reads the kind of a field. -/
def FieldKind.read : Reader FieldKind
  | .scalar (.text "scalar") => .ok .scalar
  | .scalar (.text "object") => .ok .object
  | .scalar (.text "enum") => .ok .enum
  | _ => .refuse .unknownKind

namespace Key

/-- The key "name". -/
def name : FieldKey := .single "name"

/-- The key of the name in the database. -/
def dbName : FieldKey := ⟨"dbName", "db_name"⟩

/-- The key "documentation". -/
def documentation : FieldKey := .single "documentation"

/-- The key "fields". -/
def fields : FieldKey := .single "fields"

/-- The key "deprecation". -/
def deprecation : FieldKey := .single "deprecation"

end Key

/-- Reads a field of a model. -/
def Field.read : Reader Field :=
  record "FieldDescriptor" fun entries =>
    Field.mk
      <$> required Key.name text entries
      <*> required (.single "kind") FieldKind.read entries
      <*> required (.single "type") text entries
      <*> optional ⟨"isList", "is_list"⟩ false flag entries
      <*> optional ⟨"isRequired", "is_required"⟩ false flag entries
      <*> optional ⟨"isUnique", "is_unique"⟩ false flag entries
      <*> optional ⟨"isId", "is_id"⟩ false flag entries
      <*> optional ⟨"isReadOnly", "is_read_only"⟩ false flag entries
      <*> optional ⟨"isUpdatedAt", "is_updated_at"⟩ false flag entries
      <*> optional ⟨"hasDefaultValue", "has_default_value"⟩ false flag entries
      <*> optional Key.dbName none optionalText entries
      <*> optional ⟨"relationName", "relation_name"⟩ none optionalText entries
      <*> optional Key.documentation none optionalText entries
      <*> optional (.single "omit") [] (listOf text) entries

/-- Reads a primary key or unique index. -/
def Index.read (label : String) : Reader Index :=
  record label fun entries =>
    Index.mk
      <$> optional Key.name none optionalText entries
      <*> optional Key.fields [] (listOf text) entries

/-- Reads a unique index. -/
def Index.readUnique : Reader Index :=
  Index.read "UniqueIndexDescriptor"

/-- Reads a primary key that may be null. -/
def Index.readPrimary : Reader (Option Index)
  | .scalar .null => .ok none
  | value => some <$> Index.read "PrimaryKeyDescriptor" value

/-- Reads a model. -/
def Model.read : Reader Model :=
  record "ModelDescriptor" fun entries =>
    Model.mk
      <$> required Key.name text entries
      <*> optional Key.dbName none optionalText entries
      <*> optional Key.fields [] (listOf Field.read) entries
      <*> optional ⟨"uniqueFields", "unique_fields"⟩ [] (listOf (listOf text)) entries
      <*> optional ⟨"uniqueIndexes", "unique_indexes"⟩ [] (listOf Index.readUnique) entries
      <*> optional ⟨"primaryKey", "primary_key"⟩ none Index.readPrimary entries
      <*> optional Key.documentation none optionalText entries

/-- Reads a value of an enumeration. -/
def EnumValue.read : Reader EnumValue :=
  record "EnumValueDescriptor" fun entries =>
    EnumValue.mk
      <$> required Key.name text entries
      <*> optional Key.dbName none optionalText entries

/-- Reads an enumeration. -/
def Enumeration.read : Reader Enumeration :=
  record "EnumDescriptor" fun entries =>
    Enumeration.mk
      <$> required Key.name text entries
      <*> optional (.single "values") [] (listOf EnumValue.read) entries
      <*> optional Key.dbName none optionalText entries
      <*> optional Key.documentation none optionalText entries

/-- Reads a reference to a type. -/
def TypeRef.read : Reader TypeRef :=
  record "TypeReference" fun entries =>
    TypeRef.mk
      <$> required (.single "type") text entries
      <*> optional (.single "location") "scalar" text entries
      <*> optional (.single "namespace") none optionalText entries
      <*> optional ⟨"isList", "is_list"⟩ false flag entries

/-- Reads an argument. -/
def Arg.read : Reader Arg :=
  record "SchemaArgDescriptor" fun entries =>
    Arg.mk
      <$> required Key.name text entries
      <*> optional ⟨"isRequired", "is_required"⟩ false flag entries
      <*> optional ⟨"isNullable", "is_nullable"⟩ false flag entries
      <*> required ⟨"inputTypes", "input_types"⟩ (nonemptyListOf TypeRef.read) entries
      <*> optional Key.deprecation none optionalObject entries

/-- Reads an operation. -/
def Operation.read : Reader Operation :=
  record "SchemaFieldDescriptor" fun entries =>
    Operation.mk
      <$> required Key.name text entries
      <*> optional ⟨"isNullable", "is_nullable"⟩ false flag entries
      <*> required ⟨"outputType", "output_type"⟩ TypeRef.read entries
      <*> optional (.single "args") [] (listOf Arg.read) entries
      <*> optional Key.deprecation none optionalObject entries
      <*> optional Key.documentation none optionalText entries

/-- Reads an output type. -/
def OutputType.read : Reader OutputType :=
  record "OutputTypeDescriptor" fun entries =>
    OutputType.mk
      <$> required Key.name text entries
      <*> optional Key.fields [] (listOf Operation.read) entries

/-- Reads the output types of the schema. -/
def OutputTypes.read : Reader OutputTypes :=
  record "OutputObjectTypesDescriptor" fun entries =>
    OutputTypes.mk
      <$> optional (.single "prisma") [] (listOf OutputType.read) entries
      <*> optional (.single "model") [] (listOf OutputType.read) entries

/-- Reads the schema. -/
def Schema.read : Reader Schema :=
  record "SchemaDescriptor" fun entries =>
    Schema.mk
      <$> optional ⟨"outputObjectTypes", "output_object_types"⟩ ⟨[], []⟩ OutputTypes.read entries

/-- Reads the datamodel. -/
def Datamodel.read : Reader Datamodel :=
  record "DatamodelDescriptor" fun entries =>
    Datamodel.mk
      <$> optional (.single "models") [] (listOf Model.read) entries
      <*> optional (.single "enums") [] (listOf Enumeration.read) entries

/-- Reads a document. -/
def read : Reader Document :=
  record "DMMFDocument" fun entries =>
    Document.mk
      <$> required (.single "datamodel") Datamodel.read entries
      <*> optional ⟨"schema", "prisma_schema"⟩ ⟨⟨[], []⟩⟩ Schema.read entries

end ModelGraph.Document
