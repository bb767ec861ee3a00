import ModelGraph.Value

/-!
# Options

The options that shape the import statements and flags of a graph.
-/

namespace ModelGraph

/-- The options of a graph. The client path is a module name; the other paths lie below the
output root. -/
structure Options where
  clientPath : String
  inputTypePath : String
  enumPath : String
  helpersPath : String
  /-- Whether extra types are wanted where fields with defaults are optional. -/
  optionalDefaults : Bool
  deriving DecidableEq, Repr

namespace Options

/-- The options when nothing is said. -/
def default : Options :=
  { clientPath := "@prisma/client"
    inputTypePath := "inputTypeSchemas"
    enumPath := "enums"
    helpersPath := "helpers"
    optionalDefaults := false }

/-- The options as a value. -/
def toValue (o : Options) : Value :=
  .record
    [("prisma_client_path", .text o.clientPath),
     ("input_type_path", .text o.inputTypePath),
     ("enum_path", .text o.enumPath),
     ("helpers_path", .text o.helpersPath),
     ("create_optional_default_values_types", .bool o.optionalDefaults)]

end Options

end ModelGraph
