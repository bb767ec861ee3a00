import ModelGraph.Fault
import ModelGraph.ImportSet.Basic
import ModelGraph.Value

/-!
# Sessions with an import set

A session starts from a set and takes one step after another. Its items are untyped: a statement
is a text, but any scalar can be kept. A step that is refused leaves the set as far as it got.
-/

namespace ModelGraph

/-- Scalars are the same element when they are the same key. -/
instance : BEq Scalar := ⟨Scalar.sameKey⟩

namespace Value

/-- The items one gets by going through a value that has items. -/
def items (value : Value) : Except Fault (List Value) :=
  match value.items? with
  | some items => .ok items
  | none => .error (.notIterable value.kindName)

/-- The scalar that a value is kept as; lists and objects cannot be kept. -/
def element : Value → Except Fault Scalar
  | .scalar a => .ok a
  | value => .error (.notHashable value.kindName)

end Value

namespace ImportSet

/-- A set of untyped items. -/
abbrev Items := OrderedSet Scalar

/-- One step of a session. -/
inductive Step where
  | add (item : Value)
  | extend (items : Value)
  | extendSelf
  /-- Drops the statements that mention a text. -/
  | exclude (part : String)
  /-- Shows the set without the statements that mention a text. -/
  | peekExclude (part : String)
  | excludeBuiltin
  | contains (item : Value)
  /-- Compares with the set of some items. -/
  | equalsSet (items : Value)
  /-- Compares with something that is no set. -/
  | equalsOther
  | list
  | display

/-- What a step answers. -/
inductive Reply where
  | nothing
  | flag (b : Bool)
  | items (items : List Scalar)
  | text (s : String)

/-- The set with the items of a value, and the refusal if one of them could not be added. -/
def extendBy (s : Items) (value : Value) : Items × Option Fault :=
  match value.items with
  | .ok items => s.insertEach Value.element items
  | .error fault => (s, some fault)

/-- The set of the items of a value. -/
def ofValue (value : Value) : Except Fault Items :=
  match extendBy .empty value with
  | (s, none) => .ok s
  | (_, some fault) => .error fault

/-- The first item that is not a text, as a refusal to look for a text in it. -/
def searchFault? (s : Items) : Option Fault :=
  s.toList.findSome? fun
    | .text _ => none
    | a => some (.notSearchable (Value.scalar a).kindName)

/-- The set without the statements that satisfy `p`. -/
def excludeText (s : Items) (p : String → Bool) : Except Fault Items :=
  match searchFault? s with
  | some fault => .error fault
  | none =>
    .ok (s.exclude fun
      | .text statement => p statement
      | _ => false)

/-- An import set as it is shown. -/
def shown (s : Items) : String :=
  "ImportSet([" ++ ", ".intercalate (s.toList.map Scalar.shown) ++ "])"

/-- Whether two sets have the same elements in the same order. -/
def same (s t : Items) : Bool :=
  s.toList == t.toList

/-- The set after a step, and the answer of the step. -/
def step (s : Items) : Step → Items × Except Fault Reply
  | .add item =>
    match item.element with
    | .ok a => (s.insert a, .ok .nothing)
    | .error fault => (s, .error fault)
  | .extend items =>
    match extendBy s items with
    | (t, none) => (t, .ok .nothing)
    | (t, some fault) => (t, .error fault)
  | .extendSelf => (s.insertAll s.toList, .ok .nothing)
  | .exclude part =>
    match excludeText s (Text.occurs part) with
    | .ok t => (t, .ok .nothing)
    | .error fault => (s, .error fault)
  | .peekExclude part => (s, (excludeText s (Text.occurs part)).map fun t => .items t.toList)
  | .excludeBuiltin =>
    match excludeText s Import.mentionsBuiltin with
    | .ok t => (t, .ok .nothing)
    | .error fault => (s, .error fault)
  | .contains item => (s, item.element.map fun a => .flag (s.contains a))
  | .equalsSet items => (s, (ofValue items).map fun t => .flag (same s t))
  | .equalsOther => (s, .ok (.flag false))
  | .list => (s, .ok (.items s.toList))
  | .display => (s, .ok (.text (shown s)))

/-- The sets and answers after each of the steps. -/
def run (s : Items) : List Step → List (Items × Except Fault Reply)
  | [] => []
  | next :: rest =>
    let result := step s next
    result :: run result.1 rest

end ImportSet

end ModelGraph
