import ModelGraph.Log.Event
import ModelGraph.Text.Classes
import ModelGraph.Text.Numeral
import ModelGraph.Text.Search

/-!
# Layouts of log lines

A layout is a template over the fields of an event. It has to name at least one field; whether it
names only fields that there are shows when an event is laid out. What is written on an exception
and on the calls before it stands below the line.
-/

namespace ModelGraph.Log

/-- A template over the fields of an event. -/
structure Layout where
  template : String
  deriving DecidableEq, Repr

namespace Layout

/-- Why an event has no line. -/
inductive Refusal where
  /-- The layout names no field. -/
  | noField (template : String)
  | unknownField (name : String)
  /-- The values do not fit into the message, or the fields into the layout. -/
  | values (refusal : Template.Refusal)
  deriving DecidableEq, Repr

/-- The wording of a refusal. -/
def Refusal.message : Refusal → String
  | .noField template => "Invalid format '" ++ template ++ "' for '%' style"
  | .unknownField name => "Formatting field not found in record: " ++ Text.quote name
  | .values refusal => refusal.message

/-- The layout when none is given: the level and the message. -/
def default : Layout :=
  ⟨"%(levelname)s: %(message)s"⟩

/-- The layout with the message only, which an empty template stands for. -/
def messageOnly : Layout :=
  ⟨"%(message)s"⟩

/-- The text after a width or precision at its front, if there is one. -/
def afterSize : List Char → List Char
  | '*' :: r => r
  | s => s.dropWhile Text.isDecimalDigit

/-- The text after a point and a precision at its front, if there is one. -/
def afterPrecision : List Char → List Char
  | '.' :: r => if (afterSize r).length < r.length then afterSize r else '.' :: r
  | s => s

/-- The letters that end a conversion, with the letters that count as one of them without regard
to case. -/
def endLetters : List Char :=
  "diouxefgcrsa%DIOUXEFGCRSA\u0130\u0131\u017f".toList

/-- Whether the conversion of a named field stands at the front of a text. -/
def startsWithField (s : List Char) : Bool :=
  match Text.after? ['%', '('] s with
  | none => false
  | some s =>
    match s.takeWhile Text.isWord, s.dropWhile Text.isWord with
    | _ :: _, ')' :: r =>
      let r := afterPrecision (afterSize (r.dropWhile Template.flagChars.contains))
      r.head?.any endLetters.contains
    | _, _ => false

/-- Whether a template names a field. -/
def namesField : List Char → Bool
  | [] => false
  | c :: r => startsWithField (c :: r) || namesField r

/-- The layout that a template describes. -/
def ofTemplate (template : String) : Except Refusal Layout :=
  if namesField template.toList then .ok ⟨template⟩ else .error (.noField template)

/-- The layout that is asked for. -/
def ofRequest : Option String → Except Refusal Layout
  | none => .ok default
  | some template => if template = "" then .ok messageOnly else ofTemplate template

/-- Whether a layout asks for the time. -/
def asksForTime (layout : Layout) : Bool :=
  Text.occurs "%(asctime)" layout.template

/-- What a layout is filled with: the fields of the event, the given message, and the time if it is
asked for. -/
def fields (layout : Layout) (e : Event) (message : String) : Entries :=
  let fields := Entries.put (.text "message") (.text message) e.fields
  if layout.asksForTime then Entries.put (.text "asctime") (.text e.time) fields else fields

/-- The layout with the fields of an event and the given message. -/
def fill (layout : Layout) (e : Event) (message : String) : Except Refusal String :=
  match Template.render (.byName (layout.fields e message)) layout.template with
  | .ok line => .ok line
  | .error (.unknownName name) => .error (.unknownField name)
  | .error refusal => .error (.values refusal)

/-- A line with a text below it, unless the text is empty. -/
def addBelow (line text : String) : String :=
  if text = "" then line
  else if line.toList.getLast? = some '\n' then line ++ text
  else line ++ "\n" ++ text

/-- The line of an event. -/
def line (layout : Layout) (e : Event) : Except Refusal String :=
  match e.message with
  | .ok message =>
    (layout.fill e message).map fun line => addBelow (addBelow line e.exception) e.stack
  | .error refusal => .error (.values refusal)

end Layout

end ModelGraph.Log
