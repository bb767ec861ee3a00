import ModelGraph.Log.Traced
import ModelGraph.Options.Read
import ModelGraph.Yaml.Read

/-!
# Options from a file

Options are read from a YAML file, and the caller may override some of them. A missing or empty file
leaves all options as they are, and so does an override with null.
-/

namespace ModelGraph.Options

/-- What is found at a path. -/
inductive File where
  /-- No file: nothing at all, or a directory. -/
  | absent
  | content (bytes : List UInt8)

/-- The value that the bytes of a file say. -/
def fileValue (path : String) (bytes : List UInt8) : Except Failure Value :=
  (Yaml.read (.ofBytes bytes)).mapError fun
    | .malformed fault => .optionsMalformed path fault
    | .impossible value => .optionsImpossible value
    | .undecodable failure => .optionsUndecodable failure

/-- The entries of a value that a file says. Every value that counts as false has none. -/
def entriesOf (path : String) (value : Value) : Except Failure Entries :=
  match value.truthy, value with
  | true, .object entries => .ok entries
  | true, _ => .error (.optionsNotMapping path)
  | false, _ => .ok []

/-- The entries of a file. -/
def fileEntries (path : String) : File → Traced Failure Entries
  | .absent => do
    Traced.log .options .warning ("Config file not found at " ++ path ++ ". Using defaults.")
    return []
  | .content bytes => do
    let value ← Traced.ofExcept (fileValue path bytes)
    let entries ← Traced.ofExcept (entriesOf path value)
    Traced.log .options .debug ("Loaded configuration from " ++ path)
    return entries

/-- The entries of the file at a path. No path, and likewise an empty one, means no file. -/
def entriesAt (file : File) : Option String → Traced Failure Entries
  | none => .result []
  | some path => if path = "" then .result [] else fileEntries path file

/-- Whether a value is something other than null. -/
def isGiven : Value → Bool
  | .scalar .null => false
  | _ => true

/-- The overrides that override something. -/
def effective (overrides : Entries) : Entries :=
  overrides.filter fun entry => isGiven entry.2

/-- Notes which options are overridden, in alphabetical order. -/
def noteOverrides (overrides : Entries) : Traced Failure Unit :=
  let keys := overrides.map fun entry => entry.1.display
  if keys.isEmpty then .result ()
  else
    .log .options .debug
      ("Overridden config keys: " ++ Text.quoteList (keys.mergeSort fun a b => decide (a ≤ b)))

/-- The key that stands for the path itself and cannot be overridden. -/
def pathKey : String := "config_path"

/-- Whether a key is a text. -/
def isText : Scalar → Bool
  | .text _ => true
  | _ => false

/-- What is wrong with the overrides as such, if anything. -/
def overrideFailure? (overrides : Entries) : Option Failure :=
  if !overrides.all fun entry => isText entry.1 then some .overrideNotText
  else if (Entries.get? (.text pathKey) overrides).isSome then some .pathOverridden
  else none

/-- The options at a path, where `file` is what is found there, with overrides. -/
def load (path : Option String) (file : File) (overrides : Entries) : Traced Failure Options := do
  if let some failure := overrideFailure? overrides then Traced.ofExcept (.error failure)
  let entries ← entriesAt file path
  noteOverrides (effective overrides)
  Traced.ofExcept (ofValue (.object (entries.putAll (effective overrides))) path)

end ModelGraph.Options
