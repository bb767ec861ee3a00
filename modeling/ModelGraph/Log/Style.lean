import ModelGraph.Log.Record

/-!
# Styles of log lines

On a terminal a line is painted by the name of its level, or by the shape of its message. Warnings
and errors are always painted by their level; after that the shape of the message counts before the
level.
-/

namespace ModelGraph.Log

/-- How a line is painted. -/
inductive Style where
  | plain
  | debug
  | warning
  | error
  | critical
  | success
  | progress
  | heading
  deriving DecidableEq, Repr

namespace Style

/-- A code that a terminal takes as a style. -/
def code (number : String) : String :=
  "\x1b[" ++ number ++ "m"

/-- The code that ends all styles. -/
def reset : String :=
  code "0"

/-- The code of bold letters. -/
def bold : String :=
  code "1"

/-- The codes of a style. -/
def codes : Style → String
  | .plain => ""
  | .debug => code "36"
  | .warning => code "33"
  | .error => code "31"
  | .critical => code "35"
  | .success => code "92" ++ bold
  | .progress => code "94"
  | .heading => bold ++ code "96"

/-- Whether a message looks like the line above or below a heading: it is long and has an equals
sign. -/
def looksLikeSeparator (message : String) : Bool :=
  message.toList.contains '=' && (Text.trim message.toList).length > 20

/-- The style of a message by its shape. -/
def ofMessage (levelName message : String) : Style :=
  if successMark.toList.isPrefixOf message.toList then .success
  else if progressMark.toList.isPrefixOf message.toList then .progress
  else if looksLikeSeparator message then .heading
  else if levelName = "DEBUG" then .debug
  else .plain

/-- The style of a message of a level. The name of the level counts, whatever its number is. -/
def of (levelName message : String) : Style :=
  if levelName = "WARNING" then .warning
  else if levelName = "ERROR" then .error
  else if levelName = "CRITICAL" then .critical
  else ofMessage levelName message

/-- A line in a style. -/
def paint (style : Style) (line : String) : String :=
  if style = .plain then line else style.codes ++ line ++ reset

end Style

end ModelGraph.Log
