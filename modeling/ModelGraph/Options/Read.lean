import ModelGraph.Failure
import ModelGraph.Options.Basic
import ModelGraph.Validation.Reader

/-!
# Reading options

A path loses the blanks around it and the slashes at its end, and a path below the output root
also those at its front. A path of which nothing is left is refused, and so is every key that no
option has; such keys are reported after all options, in the order in which they are given.
-/

namespace ModelGraph.Options

open Validation

/-- The letters of a path without the blanks around it and the slashes at its end. -/
def pathLetters (s : List Char) : List Char :=
  Text.dropRightWhile (· == '/') (Text.trim s)

/-- Reads a path from its letters; `finish` has the last word on an accepted one. -/
def pathOfText (finish : List Char → List Char) (s : String) : Checked String :=
  match pathLetters s.toList with
  | [] => .refuse .emptyPath
  | letters => .ok (String.ofList (finish letters))

/-- Reads a path, of which `finish` has the last word. -/
def pathWith (finish : List Char → List Char) : Reader String
  | value =>
    match text value with
    | .ok s => pathOfText finish s
    | .refused violations => .refused violations

/-- Reads the name of a module. -/
def modulePath : Reader String :=
  pathWith id

/-- Reads a path below the output root, where slashes at the front mean nothing. -/
def relativePath : Reader String :=
  pathWith fun s => s.dropWhile (· == '/')

/-- The keys of the options. -/
def keys : List String :=
  ["prisma_client_path", "input_type_path", "enum_path", "helpers_path",
   "create_optional_default_values_types"]

/-- A key that is not a text as it is reported: a truth value as 1 or 0, and a very long integer
not at all. -/
def keyLabel (key : Scalar) : String :=
  match key with
  | .bool b => if b then "1" else "0"
  | .int n =>
    if n.natAbs < Nat.pow 10 Yaml.digitLimit then toString n else "<unprintable int object>"
  | a => a.display

/-- What is wrong with the key of an entry, if anything. -/
def keyViolation? (entry : Scalar × Value) : Option Violation :=
  match entry.1 with
  | .text s => if s ∈ keys then none else some ⟨[.key s], .unexpectedKey⟩
  | key => some ⟨[.key (keyLabel key)], .keyNotText⟩

/-- Whether a key has halves of characters. -/
def isTorn : Scalar → Bool
  | .torn _ => true
  | _ => false

/-- Reads the keys of all entries. -/
def knownKeys (entries : Entries) : Checked Unit :=
  match entries.filterMap keyViolation? with
  | [] => .ok ()
  | violations => .refused violations

/-- Reads options from the entries of an object. -/
def readEntries (entries : Entries) : Checked Options :=
  (fun options _ => options)
    <$> (Options.mk
      <$> optional (.single "prisma_client_path") default.clientPath modulePath entries
      <*> optional (.single "input_type_path") default.inputTypePath relativePath entries
      <*> optional (.single "enum_path") default.enumPath relativePath entries
      <*> optional (.single "helpers_path") default.helpersPath relativePath entries
      <*> optional (.single "create_optional_default_values_types") default.optionalDefaults flag
        entries)
    <*> knownKeys entries

/-- Reads options from the entries of an object. None of the keys may have halves of characters. -/
def readWhole (entries : Entries) : Checked Options :=
  if entries.any fun entry => isTorn entry.1 then .refuse .undecodable else readEntries entries

/-- Reads options. -/
def read : Reader Options :=
  record "GeneratorConfig" readWhole

/-- The options that a value describes; `file` is where the value comes from. -/
def ofValue (value : Value) (file : Option String) : Except Failure Options :=
  (read value).toExcept fun violations => .options violations file

end ModelGraph.Options
