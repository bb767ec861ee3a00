import ModelGraph.Action.Basic

/-!
# What is generated for an action

Questions on the output type of an action, and the texts of the argument type that is made anew
when fields are left out.
-/

namespace ModelGraph.Action

/-- Whether the action gives a value of an enumeration. -/
def isEnumOutput (a : Action) : Bool :=
  a.source.outputType.location = "enumTypes"

/-- Whether the action gives a list. -/
def isListOutput (a : Action) : Bool :=
  a.source.outputType.isList

/-- Whether the action gives records. -/
def isObjectOutput (a : Action) : Bool :=
  a.source.outputType.location = "outputObjectTypes"

/-- Whether the action gives a plain value. -/
def isScalarOutput (a : Action) : Bool :=
  a.source.outputType.location = "scalar"

/-- Whether the action is the count of a relation. -/
def isCountField (a : Action) : Bool :=
  Text.occurs "_count" a.name

/-- Whether imports for selecting many records are needed. -/
def selectsMany (a : Action) : Bool :=
  a.isObjectOutput && a.isListOutput

/-- Whether imports for selecting records are needed. -/
def selects (a : Action) : Bool :=
  a.isObjectOutput

/-- Whether the type of the arguments has to be made anew without the omitted fields. -/
def needsCustomArgs (a : Action) : Bool :=
  a.hasOmittedFields && a.args.any Arg.isWrite

/-- The union of the names of the write arguments, which are left out of the client's type. -/
def omitUnion (a : Action) : String :=
  " | ".intercalate ((a.args.filter Arg.isWrite).map fun arg => "\"" ++ arg.name ++ "\"")

/-- An accepted type of an argument that is made anew. -/
def inferredType (t : Document.TypeRef) : String :=
  "z.infer<typeof " ++ t.type ++ "Schema>" ++ (if t.isList then "[]" else "")

/-- An argument that is made anew. -/
def customArg (arg : Arg) : String :=
  arg.name ++ (if arg.source.isRequired then "" else "?") ++ ": " ++
    " | ".intercalate (arg.source.inputTypes.map inferredType)

/-- The arguments that are made anew. -/
def customArgs (a : Action) : String :=
  ", ".intercalate ((a.args.filter Arg.isRemade).map customArg)

/-- The action as it is shown. -/
def display (a : Action) : String :=
  "ExtendedAction(" ++ Text.quote a.name ++ ")"

end ModelGraph.Action
