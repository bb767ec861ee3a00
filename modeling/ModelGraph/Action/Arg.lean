import ModelGraph.Model.Basic

/-!
# Arguments of actions

An argument of an action, linked to the field of the same name of the model that the action works
on, if there is one.
-/

namespace ModelGraph

/-- An argument of an action. -/
structure Arg where
  source : Document.Arg
  linkedField : Option Field

namespace Arg

/-- The name of the argument. -/
def name (a : Arg) : String :=
  a.source.name

/-- Whether the argument accepts more than one type. -/
def hasMultipleTypes (a : Arg) : Bool :=
  a.source.inputTypes.length > 1

/-- What the name of an argument with write data mentions, when its type is to be made anew. -/
def remadeWords : List String :=
  ["create", "update", "upsert", "data"]

/-- What the name of a write argument mentions. -/
def writeWords : List String :=
  ["create", "update", "upsert", "delete", "data"]

/-- Whether the type of the argument is to be made anew, without the omitted fields. -/
def isRemade (a : Arg) : Bool :=
  Text.mentionsAny remadeWords a.name

/-- Whether the argument is one of a write action. -/
def isWrite (a : Arg) : Bool :=
  Text.mentionsAny writeWords a.name

/-- The names of the accepted types. -/
def typeNames (a : Arg) : List String :=
  a.source.inputTypes.map Document.TypeRef.type

/-- The argument as it is shown. -/
def display (a : Arg) : String :=
  "ExtendedArg(" ++ Text.quote a.name ++ ", types=" ++ Text.quoteList a.typeNames ++ ")"

end Arg

end ModelGraph
