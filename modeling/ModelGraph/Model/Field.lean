import ModelGraph.Document.Basic
import ModelGraph.Failure
import ModelGraph.Log.Traced
import ModelGraph.Name.Forms

/-!
# Fields of a graph

A field of a graph is a field of the document together with the model it belongs to and the forms
of its name. Its kind is taken as declared; JSON and decimal fields are known by their type.
-/

namespace ModelGraph

/-- The forms of a name, as a step of a computation. -/
def Name.tracedForms (name : String) : Traced Failure Name.Forms :=
  .ofExcept ((Name.forms name).mapError Failure.name)

/-- A field of a model. -/
structure Field extends Document.Field where
  modelName : String
  names : Name.Forms
  deriving DecidableEq, Repr

namespace Field

/-- The field of a graph for a field of the document. -/
def build (modelName : String) (source : Document.Field) : Traced Failure Field := do
  let names ← Name.tracedForms source.name
  return { toField := source, modelName, names }

/-- Whether the field holds JSON. -/
def isJson (f : Field) : Bool :=
  f.type = "Json"

/-- Whether the field holds a decimal number. -/
def isDecimal (f : Field) : Bool :=
  f.type = "Decimal"

/-- Whether the field may be null. -/
def isNullable (f : Field) : Bool :=
  !f.isRequired

/-- Whether the field holds a plain value. -/
def isScalar (f : Field) : Bool :=
  f.kind = .scalar

/-- Whether the field relates the model to another one. -/
def isRelation (f : Field) : Bool :=
  f.kind = .object

/-- Whether the field holds a value of an enumeration. -/
def isEnum (f : Field) : Bool :=
  f.kind = .enum

/-- The omit targets that leave a field out of the arguments of write actions. -/
def writeTargets : List String :=
  ["input", "all"]

/-- Whether the field is left out of the arguments of write actions. -/
def isOmitted (f : Field) : Bool :=
  f.omitTargets.any fun target => target ∈ writeTargets

/-- Whether the database fills the field when it is left out. -/
def isOptionalDefault (f : Field) : Bool :=
  f.hasDefaultValue || f.isUpdatedAt

/-- Where the field is, as it is appended to messages about it. -/
def location (f : Field) : String :=
  fieldLocation f.modelName f.name

/-- The field as it is shown. -/
def display (f : Field) : String :=
  "ExtendedField(" ++ f.modelName ++ "." ++ f.name ++ ": " ++ f.kind.name ++ " " ++ f.type ++ ")"

end Field

end ModelGraph
