/-!
# Violations

A violation is one thing that is wrong with a value that was read: where it is, as a path of keys
and indexes from the root, and what is wrong there.
-/

namespace ModelGraph.Validation

/-- One step from a value to a part of it. -/
inductive Segment where
  | key (name : String)
  | index (n : Nat)
  deriving DecidableEq, Repr

/-- What is wrong with a value. -/
inductive Cause where
  /-- A required field is absent. -/
  | missing
  /-- A record of the named kind was expected. -/
  | notRecord (label : String)
  | notList
  /-- No item of a list that needs one is valid. -/
  | noValidItem
  | notText
  /-- Bytes that are no text, or a text with halves of characters. -/
  | undecodable
  | unknownKind
  | notObject
  /-- A truth value was expected, and the value cannot be one. -/
  | notFlag
  /-- A truth value was expected, and the text or number does not say which. -/
  | unclearFlag
  /-- A path has nothing in it but blanks and slashes. -/
  | emptyPath
  /-- A key is none of the known ones. -/
  | unexpectedKey
  | keyNotText
  deriving DecidableEq, Repr

/-- The wording of a cause. -/
def Cause.message : Cause → String
  | .missing => "Field required"
  | .notRecord label => "Input should be a valid dictionary or instance of " ++ label
  | .notList => "Input should be a valid tuple"
  | .noValidItem => "Tuple should have at least 1 item after validation, not 0"
  | .notText => "Input should be a valid string"
  | .undecodable =>
    "Input should be a valid string, unable to parse raw data as a unicode string"
  | .unknownKind => "Input should be 'scalar', 'object' or 'enum'"
  | .notObject => "Input should be a valid dictionary"
  | .notFlag => "Input should be a valid boolean"
  | .unclearFlag => "Input should be a valid boolean, unable to interpret input"
  | .emptyPath => "Value error, Path options must not be empty"
  | .unexpectedKey => "Extra inputs are not permitted"
  | .keyNotText => "Keys should be strings"

/-- One thing that is wrong with a value that was read. -/
structure Violation where
  path : List Segment
  cause : Cause
  deriving DecidableEq, Repr

/-- One step of a path as it is written. -/
def Segment.text : Segment → String
  | .key name => name
  | .index n => toString n

namespace Violation

/-- The violation seen from the value around the one that was read. -/
def under (segment : Segment) (v : Violation) : Violation :=
  { v with path := segment :: v.path }

/-- The path as it is written, with points between its steps. -/
def location (v : Violation) : String :=
  ".".intercalate (v.path.map Segment.text)

/-- A violation as it is reported. A location without text is written `root`. -/
def describe (root : String) (v : Violation) : String :=
  (if v.location = "" then root else v.location) ++ ": " ++ v.cause.message

end Violation

end ModelGraph.Validation
