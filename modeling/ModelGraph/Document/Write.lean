import ModelGraph.Document.Basic

/-!
# Writing a document

A document is written as a value with camel-case keys, every field of every record present.
-/

namespace ModelGraph.Document

/-- A list of texts as a value. -/
def textsToValue (texts : List String) : Value :=
  .list (texts.map Value.text)

/-- A deprecation note as a value. -/
def deprecationToValue : Option Entries → Value
  | none => .null
  | some entries => .object entries

/-- A field of a model as a value. -/
def Field.toValue (f : Field) : Value :=
  .record
    [("name", .text f.name),
     ("kind", .text f.kind.name),
     ("type", .text f.type),
     ("isList", .bool f.isList),
     ("isRequired", .bool f.isRequired),
     ("isUnique", .bool f.isUnique),
     ("isId", .bool f.isId),
     ("isReadOnly", .bool f.isReadOnly),
     ("isUpdatedAt", .bool f.isUpdatedAt),
     ("hasDefaultValue", .bool f.hasDefaultValue),
     ("dbName", .optionalText f.dbName),
     ("relationName", .optionalText f.relationName),
     ("documentation", .optionalText f.documentation),
     ("omit", textsToValue f.omitTargets)]

/-- A primary key or unique index as a value. -/
def Index.toValue (i : Index) : Value :=
  .record [("name", .optionalText i.name), ("fields", textsToValue i.fields)]

/-- A primary key that may be absent as a value. -/
def Index.optionalToValue : Option Index → Value
  | none => .null
  | some i => i.toValue

/-- A model as a value. -/
def Model.toValue (m : Model) : Value :=
  .record
    [("name", .text m.name),
     ("dbName", .optionalText m.dbName),
     ("fields", .list (m.fields.map Field.toValue)),
     ("uniqueFields", .list (m.uniqueFields.map textsToValue)),
     ("uniqueIndexes", .list (m.uniqueIndexes.map Index.toValue)),
     ("primaryKey", Index.optionalToValue m.primaryKey),
     ("documentation", .optionalText m.documentation)]

/-- A value of an enumeration as a value. -/
def EnumValue.toValue (v : EnumValue) : Value :=
  .record [("name", .text v.name), ("dbName", .optionalText v.dbName)]

/-- An enumeration as a value. -/
def Enumeration.toValue (e : Enumeration) : Value :=
  .record
    [("name", .text e.name),
     ("values", .list (e.values.map EnumValue.toValue)),
     ("dbName", .optionalText e.dbName),
     ("documentation", .optionalText e.documentation)]

/-- A reference to a type as a value. -/
def TypeRef.toValue (t : TypeRef) : Value :=
  .record
    [("type", .text t.type),
     ("location", .text t.location),
     ("namespace", .optionalText t.namespaceName),
     ("isList", .bool t.isList)]

/-- An argument as a value. -/
def Arg.toValue (a : Arg) : Value :=
  .record
    [("name", .text a.name),
     ("isRequired", .bool a.isRequired),
     ("isNullable", .bool a.isNullable),
     ("inputTypes", .list (a.inputTypes.map TypeRef.toValue)),
     ("deprecation", deprecationToValue a.deprecation)]

/-- An operation as a value. -/
def Operation.toValue (o : Operation) : Value :=
  .record
    [("name", .text o.name),
     ("isNullable", .bool o.isNullable),
     ("outputType", o.outputType.toValue),
     ("args", .list (o.args.map Arg.toValue)),
     ("deprecation", deprecationToValue o.deprecation),
     ("documentation", .optionalText o.documentation)]

/-- An output type as a value. -/
def OutputType.toValue (t : OutputType) : Value :=
  .record [("name", .text t.name), ("fields", .list (t.fields.map Operation.toValue))]

/-- The output types of the schema as a value. -/
def OutputTypes.toValue (t : OutputTypes) : Value :=
  .record
    [("prisma", .list (t.client.map OutputType.toValue)),
     ("model", .list (t.model.map OutputType.toValue))]

/-- The schema as a value. -/
def Schema.toValue (s : Schema) : Value :=
  .record [("outputObjectTypes", s.outputTypes.toValue)]

/-- The datamodel as a value. -/
def Datamodel.toValue (d : Datamodel) : Value :=
  .record
    [("models", .list (d.models.map Model.toValue)),
     ("enums", .list (d.enums.map Enumeration.toValue))]

/-- A document as a value. -/
def toValue (d : Document) : Value :=
  .record [("datamodel", d.datamodel.toValue), ("schema", d.schema.toValue)]

end ModelGraph.Document
