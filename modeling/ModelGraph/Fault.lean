/-!
# Faults

A fault is the refusal of an operation that was given something it cannot work with: a value of
the wrong kind, or a name without a plural. Failures of the input as a whole are reported in
another way, see `ModelGraph.Failure`.
-/

namespace ModelGraph

/-- Why an operation was refused. The kinds are those of `Value.kindName`. -/
inductive Fault where
  /-- A name was expected and is not a text. -/
  | nameNotText (kind : String)
  /-- The plural was asked of something that is not a text. -/
  | pluralOfNonText (kind : String)
  /-- The name has a line break before its last character, so it has no last word. -/
  | lineBreakInName
  /-- A list or an object cannot be looked up. -/
  | notHashable (kind : String)
  /-- A value without items was to be gone through. -/
  | notIterable (kind : String)
  /-- A text was looked for in a value that holds none. -/
  | notSearchable (kind : String)
  /-- A context that was explicitly left out cannot take an entry. -/
  | contextLeftOut
  /-- A general report has no details of its own. -/
  | unexpectedDetail (name : String)
  /-- A value without items was to be joined. -/
  | notJoinable
  /-- The item at `index` of a list to be joined is not a text. -/
  | itemNotText (index : Nat) (kind : String)
  deriving DecidableEq, Repr

/-- The wording of a fault. -/
def Fault.message : Fault → String
  | .nameNotText kind => "Expected string, got " ++ kind
  | .pluralOfNonText kind => "expected string or bytes-like object, got '" ++ kind ++ "'"
  | .lineBreakInName => "'NoneType' object has no attribute 'groups'"
  | .notHashable kind => "unhashable type: '" ++ kind ++ "'"
  | .notIterable kind => "'" ++ kind ++ "' object is not iterable"
  | .notSearchable kind => "argument of type '" ++ kind ++ "' is not iterable"
  | .contextLeftOut => "'NoneType' object does not support item assignment"
  | .unexpectedDetail name =>
    "DMMFGraphError.__init__() got an unexpected keyword argument '" ++ name ++ "'"
  | .notJoinable => "can only join an iterable"
  | .itemNotText index kind =>
    "sequence item " ++ toString index ++ ": expected str instance, " ++ kind ++ " found"

end ModelGraph
