import ModelGraph.Log.Record
import ModelGraph.Template.Render

/-!
# Log events

An event is what a program hands to a logger: a message, perhaps with values to be put into it. The
values are put into the message only when there are any, so a message without values may hold
percent signs. With it goes what the logger finds out itself, such as the time, and where in the
program the event was logged.
-/

namespace ModelGraph.Log

/-- What is handed to a logger, and what the logger adds. -/
structure Event where
  logger : String
  level : Level
  /-- What the level is called, which a program may change. -/
  levelName : String := Level.name level
  template : String
  values : List Value
  /-- What else is known of the event, under names of its own. -/
  attributes : List (String × Value) := []
  /-- The time of the event as it is written. -/
  time : String := ""
  /-- What is written on the exception that goes with the event; empty without one. -/
  exception : String := ""
  /-- What is written on the calls that led to the event; empty if nothing is. -/
  stack : String := ""

namespace Event

/-- How values go into a message. A single object that is not empty gives its values by name. -/
def templateValues : List Value → Template.Values
  | [.object (entry :: rest)] => .byName (entry :: rest)
  | values => .inTurn values

/-- The message with its values. -/
def message (e : Event) : Except Template.Refusal String :=
  if e.values.isEmpty then .ok e.template
  else Template.render (templateValues e.values) e.template

/-- Some values as they are shown in a row. -/
def shownRow (values : List Value) : String :=
  "(" ++ ", ".intercalate (Value.shownItems values) ++ (if values.length = 1 then ",)" else ")")

/-- The field of the values: nothing when there are none, an object that gives them by name, and
otherwise all of them in a row. -/
def valuesField (values : List Value) : Value :=
  match values, templateValues values with
  | [], _ => .null
  | _, .byName entries => .object entries
  | values, .inTurn _ => .text (shownRow values)

/-- The fields of an event. An attribute does not take the place of a field before it. -/
def fields (e : Event) : Entries :=
  ([("name", .text e.logger),
    ("msg", .text e.template),
    ("args", valuesField e.values),
    ("levelname", .text e.levelName),
    ("levelno", .scalar (.int e.level))] ++ e.attributes).map fun field =>
      (.text field.1, field.2)

end Event

end ModelGraph.Log
