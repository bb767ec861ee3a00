import ModelGraph.Model.Basic

/-!
# The datamodel of a graph

The models and enumerations of a graph, in declaration order.
-/

namespace ModelGraph

/-- An enumeration of the datamodel. -/
structure Enumeration where
  source : Document.Enumeration
  names : Name.Forms
  deriving Repr

namespace Enumeration

/-- The name of the enumeration. -/
def name (e : Enumeration) : String :=
  e.source.name

/-- The names of the values. -/
def valueNames (e : Enumeration) : List String :=
  e.source.values.map Document.EnumValue.name

/-- The enumeration as it is shown. -/
def display (e : Enumeration) : String :=
  "ExtendedEnum(" ++ Text.quote e.name ++ ")"

/-- The enumeration of a graph for one of the document. -/
def build (source : Document.Enumeration) : Traced Failure Enumeration := do
  let names ← Name.tracedForms source.name
  return { source, names }

end Enumeration

/-- The models and enumerations. -/
structure Datamodel where
  models : List Model
  enums : List Enumeration
  deriving Repr

namespace Datamodel

/-- The first model with a name. -/
def model? (d : Datamodel) (name : String) : Option Model :=
  d.models.find? fun m => m.name == name

/-- The first enumeration with a name. -/
def enum? (d : Datamodel) (name : String) : Option Enumeration :=
  d.enums.find? fun e => e.name == name

/-- The note on a finished datamodel. -/
def note (d : Datamodel) : String :=
  "Datamodel built: " ++ toString d.models.length ++ " models, " ++
    toString d.enums.length ++ " enums"

/-- The datamodel of a graph for that of the document. -/
def build (options : Options) (source : Document.Datamodel) : Traced Failure Datamodel := do
  let models ← Traced.each (Model.build options) source.models
  let enums ← Traced.each Enumeration.build source.enums
  let datamodel : Datamodel := { models, enums }
  Traced.log .datamodel .debug datamodel.note
  return datamodel

end Datamodel

end ModelGraph
