import ModelGraph.Text.Utf8
import ModelGraph.Validation.Checked
import ModelGraph.Value

/-!
# Readers

A reader turns a value into what it stands for, or says all that is wrong with it. This module has
the readers of plain values, of lists, and of the fields of records.
-/

namespace ModelGraph.Validation

/-- A reader of values. -/
abbrev Reader (α : Type) := Value → Checked α

/-- The text that bytes are, if they are one. -/
def textOfBytes? (bytes : List UInt8) : Option String :=
  match Text.Utf8.decode bytes with
  | .ok letters => some (String.ofList letters)
  | .error _ => none

/-- Reads a text. -/
def text : Reader String
  | .scalar (.text s) => .ok s
  | .scalar (.torn s) => .ok s
  | .scalar (.bytes b) =>
    match textOfBytes? b with
    | some s => .ok s
    | none => .refuse .undecodable
  | _ => .refuse .notText

/-- Reads a text that may be null. -/
def optionalText : Reader (Option String)
  | .scalar .null => .ok none
  | value => some <$> text value

/-- Reads an object that may be null. -/
def optionalObject : Reader (Option Entries)
  | .scalar .null => .ok none
  | .object entries => .ok (some entries)
  | _ => .refuse .notObject

/-- The words for true and for false, in any letter case. -/
def flagWords : List (String × Bool) :=
  [("1", true), ("on", true), ("t", true), ("true", true), ("y", true), ("yes", true),
   ("0", false), ("off", false), ("f", false), ("false", false), ("n", false), ("no", false)]

/-- The truth value that a text says. -/
def flagOfText? (s : String) : Option Bool :=
  (flagWords.find? fun word => word.1.toList == s.toList.map Char.toLower).map Prod.snd

/-- Reads a truth value that a text says. -/
def flagOfText (s : String) : Checked Bool :=
  match flagOfText? s with
  | some b => .ok b
  | none => .refuse .unclearFlag

/-- The truth value that an integer says. -/
def flagOfInt (n : Int) : Checked Bool :=
  if n = 0 then .ok false else if n = 1 then .ok true else .refuse .unclearFlag

/-- Reads a truth value. Integers count when they have 64 bits, and reals when they are equal to
an integer between the ends of that range. -/
def flag : Reader Bool
  | .scalar (.bool b) => .ok b
  | .scalar (.text s) => flagOfText s
  | .scalar (.torn _) => .refuse .undecodable
  | .scalar (.bytes b) =>
    match textOfBytes? b with
    | some s => flagOfText s
    | none => .refuse .unclearFlag
  | .scalar (.int n) =>
    if -Nat.pow 2 63 ≤ n ∧ n < Nat.pow 2 63 then flagOfInt n else .refuse .notFlag
  | .scalar (.real x) =>
    match Decimal.whole? x with
    | some n => if -Nat.pow 2 63 < n ∧ n < Nat.pow 2 63 then flagOfInt n else .refuse .notFlag
    | none => .refuse .notFlag
  | _ => .refuse .notFlag

/-- Reads the items of a list, the first of which has the index `i`. -/
def items (read : Reader α) (i : Nat) : List Value → Checked (List α)
  | [] => .ok []
  | value :: rest => List.cons <$> (read value).under (.index i) <*> items read (i + 1) rest

/-- Reads a list. -/
def listOf (read : Reader α) : Reader (List α)
  | .list values => items read 0 values
  | _ => .refuse .notList

/-- Reads a list that has at least one valid item. -/
def nonemptyListOf (read : Reader α) : Reader (List α)
  | .list values =>
    if values.any fun value => (read value).isOk then items read 0 values
    else .refused ((items read 0 values).violations ++ [⟨[], .noValidItem⟩])
  | _ => .refuse .notList

/-- The two spellings of the key of a field. When both are there, the first one counts. -/
structure FieldKey where
  main : String
  other : String
  deriving Repr

/-- A key with one spelling. -/
def FieldKey.single (name : String) : FieldKey :=
  ⟨name, name⟩

/-- The value of a field with the spelling that it was found under. -/
def FieldKey.find? (key : FieldKey) (entries : Entries) : Option (String × Value) :=
  match Entries.get? (.text key.main) entries with
  | some value => some (key.main, value)
  | none => (Entries.get? (.text key.other) entries).map fun value => (key.other, value)

/-- Reads a field that has to be there. -/
def required (key : FieldKey) (read : Reader α) (entries : Entries) : Checked α :=
  match key.find? entries with
  | some (spelling, value) => (read value).under (.key spelling)
  | none => .refused [⟨[.key key.main], .missing⟩]

/-- Reads a field that stands for `fallback` when it is not there. -/
def optional (key : FieldKey) (fallback : α) (read : Reader α) (entries : Entries) : Checked α :=
  match key.find? entries with
  | some (spelling, value) => (read value).under (.key spelling)
  | none => .ok fallback

/-- Reads a record from its entries; `label` names the kind of record. -/
def record (label : String) (read : Entries → Checked α) : Reader α
  | .object entries => read entries
  | _ => .refuse (.notRecord label)

end ModelGraph.Validation
