import ModelGraph.Decimal.Written
import ModelGraph.Moment
import ModelGraph.Text.Quoted

/-!
# Values of structured documents

A document is read as a tree of scalars, lists and objects. An object keeps its entries in the
order in which their keys first came, and its keys are scalars: data files may have keys that are
not texts. `Entries.put` is the one way to write an entry.
-/

namespace ModelGraph

/-- A value without parts. -/
inductive Scalar where
  | null
  | bool (b : Bool)
  | int (n : Int)
  | real (x : Float)
  | text (s : String)
  /-- A text that has halves of characters in it, which `s` has joined or replaced. -/
  | torn (s : String)
  | bytes (b : List UInt8)
  | moment (m : Moment)
  deriving Inhabited

/-- A value of a structured document. -/
inductive Value where
  | scalar (a : Scalar)
  | list (items : List Value)
  | object (entries : List (Scalar × Value))
  deriving Inhabited

/-- The entries of an object. -/
abbrev Entries := List (Scalar × Value)

namespace Scalar

/-- The integer a truth value or an integer counts as. -/
def integer? : Scalar → Option Int
  | .bool b => some (if b then 1 else 0)
  | .int n => some n
  | _ => none

/-- Whether two scalars are one and the same key. Numbers compare by value, and a truth value
compares as 0 or 1. What is no number is one key. -/
def sameKey : Scalar → Scalar → Bool
  | .null, .null => true
  | .text s, .text t => s == t
  | .torn s, .torn t => s == t
  | .bytes b, .bytes c => b == c
  | .moment m, .moment n => m.same n
  | .real x, .real y => x == y || (x.isNaN && y.isNaN)
  | .real x, a => (a.integer?.map fun n => Decimal.whole? x == some n).getD false
  | a, .real x => (a.integer?.map fun n => Decimal.whole? x == some n).getD false
  | a, b => (a.integer?.bind fun m => b.integer?.map fun n => m == n).getD false

/-- Whether a scalar counts as true: all but null, false, the zeros, and the empty text or no
bytes. -/
def truthy : Scalar → Bool
  | .null => false
  | .bool b => b
  | .int n => n != 0
  | .real x => x != 0
  | .text s => s != ""
  | .torn _ => true
  | .bytes b => !b.isEmpty
  | .moment _ => true

/-- Reals are written positionally from four places after the point up to sixteen before it, and
an exponent has two digits at least. -/
def realLayout : Decimal.Layout := ⟨-4, 16, 2⟩

/-- A scalar inside a shown list or object, where texts stand in quotes. -/
def shown : Scalar → String
  | .null => "None"
  | .bool b => if b then "True" else "False"
  | .int n => toString n
  | .real x => Decimal.write realLayout x
  | .text s => Text.quote s
  | .torn s => Text.quote s
  | .bytes b => Text.quoteBytes b
  | .moment m => m.shown

/-- A scalar on its own, where a text stands for itself. -/
def display : Scalar → String
  | .text s => s
  | a => a.shown

end Scalar

namespace Entries

/-- The value under a key. -/
def get? (key : Scalar) (entries : Entries) : Option Value :=
  (entries.find? fun entry => entry.1.sameKey key).map Prod.snd

/-- The entries with `value` under `key`: in its old place when the key is there, at the end
otherwise. -/
def put (key : Scalar) (value : Value) : Entries → Entries
  | [] => [(key, value)]
  | entry :: rest =>
    if entry.1.sameKey key then (entry.1, value) :: rest else entry :: put key value rest

/-- The entries with each of `more` put into them in turn. -/
def putAll (entries more : Entries) : Entries :=
  more.foldl (fun acc entry => put entry.1 entry.2 acc) entries

/-- The object that a sequence of entries describes, where a later entry replaces an earlier one
of the same key. -/
def ofPairs (pairs : List (Scalar × Value)) : Entries :=
  putAll [] pairs

end Entries

namespace Value

/-- The null value. -/
abbrev null : Value := .scalar .null

/-- A truth value. -/
abbrev bool (b : Bool) : Value := .scalar (.bool b)

/-- A text. -/
abbrev text (s : String) : Value := .scalar (.text s)

/-- An optional text, where nothing is null. -/
def optionalText : Option String → Value
  | none => .null
  | some s => .text s

/-- An object whose keys are texts. -/
def record (fields : List (String × Value)) : Value :=
  .object (fields.map fun field => (.text field.1, field.2))

/-- The items one gets by going through a value: those of a list, the keys of an object, or the
characters of a text. -/
def items? : Value → Option (List Value)
  | .list items => some items
  | .object entries => some (entries.map fun entry => .scalar entry.1)
  | .scalar (.text s) => some (s.toList.map fun c => .text (String.singleton c))
  | .scalar _ => none

/-- Whether a value counts as true: empty lists and objects do not. -/
def truthy : Value → Bool
  | .scalar a => a.truthy
  | .list items => !items.isEmpty
  | .object entries => !entries.isEmpty

mutual

/-- A value as it is shown inside a list or an object. -/
def shown : Value → String
  | .scalar a => a.shown
  | .list items => "[" ++ ", ".intercalate (shownItems items) ++ "]"
  | .object entries => "\x7b" ++ ", ".intercalate (shownEntries entries) ++ "\x7d"

/-- The items of a list as they are shown. -/
def shownItems : List Value → List String
  | [] => []
  | item :: rest => item.shown :: shownItems rest

/-- The entries of an object as they are shown. -/
def shownEntries : List (Scalar × Value) → List String
  | [] => []
  | (key, value) :: rest => (key.shown ++ ": " ++ value.shown) :: shownEntries rest

end

/-- A value on its own, where a text stands for itself. -/
def display : Value → String
  | .scalar a => a.display
  | value => value.shown

/-- The name of the kind of a value. -/
def kindName : Value → String
  | .scalar .null => "NoneType"
  | .scalar (.bool _) => "bool"
  | .scalar (.int _) => "int"
  | .scalar (.real _) => "float"
  | .scalar (.text _) => "str"
  | .scalar (.torn _) => "str"
  | .scalar (.bytes _) => "bytes"
  | .scalar (.moment m) => if m.clock.isSome then "datetime" else "date"
  | .list _ => "list"
  | .object _ => "dict"

end Value

end ModelGraph
