import ModelGraph.OrderedSet
import ModelGraph.Text.Search

/-!
# Import sets

Generated files list their import statements in the order in which these were first asked for, so
that two runs give the same bytes. This module has the sets and the statements that the library
itself asks for.
-/

namespace ModelGraph

/-- A set of import statements. -/
abbrev ImportSet := OrderedSet String

namespace Import

/-- An import of one exported name from a module below the output root. -/
def named (name path : String) : String :=
  "import \x7b " ++ name ++ " \x7d from '../" ++ path ++ "'"

/-- The import of the type of nullable JSON values. -/
def nullableJson (helpersPath : String) : String :=
  named "NullableJsonValue" helpersPath

/-- The import of the type of JSON input values. -/
def inputJson (helpersPath : String) : String :=
  named "InputJsonValue" helpersPath

/-- The import of the database client. -/
def client (clientPath : String) : String :=
  "import * as PrismaClient from '" ++ clientPath ++ "'"

/-- The import of the schema of `typeName` from its own module in `directory`. -/
def schema (directory typeName : String) : String :=
  named (typeName ++ "Schema") (directory ++ "/" ++ typeName ++ "Schema")

/-- The import of the include schema of a model type. -/
def includeSchema (directory modelType : String) : String :=
  schema directory (modelType ++ "Include")

/-- The schemas that generated code never imports. -/
def builtinSchemas : List String :=
  ["IntSchema", "BooleanSchema"]

/-- Whether a statement mentions a schema that generated code never imports. -/
def mentionsBuiltin (statement : String) : Bool :=
  Text.mentionsAny builtinSchemas statement

/-- The import of a schema tells which type it is for. -/
theorem schema_inj {directory left right : String}
    (h : schema directory left = schema directory right) : left = right := by
  have htext := congrArg String.toList h
  simp only [schema, named, String.toList_append, List.append_assoc] at htext
  -- The type name stands twice in the statement, so names of one statement have one length.
  have hlength : left.toList.length = right.toList.length := by
    have htotal := congrArg List.length htext
    simp only [List.length_append] at htotal
    omega
  exact String.toList_inj.1 (List.append_inj_left (List.append_cancel_left htext) hlength)

end Import

end ModelGraph
