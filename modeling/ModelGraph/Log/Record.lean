import ModelGraph.Text.Case

/-!
# Log records

A record has a source, a level and a message. Some messages have a shape of their own: progress,
success, and the three lines of a section header.
-/

namespace ModelGraph.Log

/-- How important a record is. -/
abbrev Level := Int

namespace Level

/-- The level of details. -/
def debug : Level := 10

/-- The level of ordinary messages. -/
def info : Level := 20

/-- The level of warnings. -/
def warning : Level := 30

/-- The level of errors. -/
def error : Level := 40

/-- The level of errors that end the program. -/
def critical : Level := 50

/-- The levels that have a name. -/
def names : List (Level × String) :=
  [(critical, "CRITICAL"), (error, "ERROR"), (warning, "WARNING"), (info, "INFO"),
   (debug, "DEBUG"), (0, "NOTSET")]

/-- The name of a level; a level without one is named by its number. -/
def name (level : Level) : String :=
  (names.lookup level).getD ("Level " ++ toString level)

/-- Other names of levels. -/
def aliases : List (Level × String) :=
  [(critical, "FATAL"), (warning, "WARN")]

/-- The level with a name. -/
def ofName? (s : String) : Option Level :=
  ((names ++ aliases).find? fun entry => entry.2 = s).map Prod.fst

end Level

/-- The part of the library that a record comes from. -/
inductive Source where
  | options
  | graph
  | datamodel
  | model
  | directive
  | action
  deriving DecidableEq, Repr

/-- A log record. -/
structure Record where
  source : Source
  level : Level
  message : String
  deriving DecidableEq, Repr

/-- What a message of success begins with. -/
def successMark : String := "✓ "

/-- What a message of progress begins with. -/
def progressMark : String := "→ "

/-- A message of success. -/
def success (message : String) : String :=
  successMark ++ message

/-- A message of progress. -/
def progress (message : String) : String :=
  progressMark ++ message

/-- The line above and below the title of a section. -/
def separator : String :=
  String.ofList (List.replicate 60 '=')

/-- The lines of a section header. -/
def sectionLines (title : String) : List String :=
  [separator, "  " ++ String.ofList (Text.upper title.toList), separator]

end ModelGraph.Log
