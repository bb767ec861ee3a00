import ModelGraph.Value

/-!
# Documents

A document describes a database client: the models and enumerations of its datamodel, and the
operations of its schema with their arguments and types.
-/

namespace ModelGraph.Document

/-- What a field of a model holds. -/
inductive FieldKind where
  | scalar
  | object
  | enum
  deriving DecidableEq, Repr

/-- The name of a kind of field. -/
def FieldKind.name : FieldKind → String
  | .scalar => "scalar"
  | .object => "object"
  | .enum => "enum"

/-- A field of a model. -/
structure Field where
  name : String
  kind : FieldKind
  type : String
  isList : Bool
  isRequired : Bool
  isUnique : Bool
  isId : Bool
  isReadOnly : Bool
  isUpdatedAt : Bool
  hasDefaultValue : Bool
  dbName : Option String
  relationName : Option String
  documentation : Option String
  omitTargets : List String
  deriving DecidableEq, Repr

/-- A primary key or unique index: some fields, perhaps under a name. -/
structure Index where
  name : Option String
  fields : List String
  deriving DecidableEq, Repr

/-- A model of the datamodel. -/
structure Model where
  name : String
  dbName : Option String
  fields : List Field
  uniqueFields : List (List String)
  uniqueIndexes : List Index
  primaryKey : Option Index
  documentation : Option String
  deriving DecidableEq, Repr

/-- A value of an enumeration. -/
structure EnumValue where
  name : String
  dbName : Option String
  deriving DecidableEq, Repr

/-- An enumeration of the datamodel. -/
structure Enumeration where
  name : String
  values : List EnumValue
  dbName : Option String
  documentation : Option String
  deriving DecidableEq, Repr

/-- A reference to an input or output type. -/
structure TypeRef where
  type : String
  location : String
  namespaceName : Option String
  isList : Bool
  deriving DecidableEq, Repr

/-- An argument of an operation. -/
structure Arg where
  name : String
  isRequired : Bool
  isNullable : Bool
  inputTypes : List TypeRef
  deprecation : Option Entries

/-- A field of an output type; those of the root types are the operations of the client. -/
structure Operation where
  name : String
  isNullable : Bool
  outputType : TypeRef
  args : List Arg
  deprecation : Option Entries
  documentation : Option String

/-- An output type with its fields. -/
structure OutputType where
  name : String
  fields : List Operation

/-- The output types of the schema: those of the client itself and those of its models. -/
structure OutputTypes where
  client : List OutputType
  model : List OutputType

/-- The schema of the client. -/
structure Schema where
  outputTypes : OutputTypes

/-- The models and enumerations. -/
structure Datamodel where
  models : List Model
  enums : List Enumeration
  deriving DecidableEq, Repr

end ModelGraph.Document

namespace ModelGraph

/-- A description of a database client. -/
structure Document where
  datamodel : Document.Datamodel
  schema : Document.Schema

end ModelGraph
