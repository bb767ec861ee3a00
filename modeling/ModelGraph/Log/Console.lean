import ModelGraph.Log.Painter

/-!
# Consoles

A console writes events to the error output through its handlers. Setting it up replaces all
handlers by one that writes lines. Before any handler is there, warnings and errors are written
bare, so that they are not lost.
-/

namespace ModelGraph.Log

/-- Where the events of a console go. -/
inductive Handler where
  /-- Writes nothing. -/
  | silent
  /-- Writes the lines of events at a level and up. -/
  | lines (least : Level) (painter : Painter)
  deriving DecidableEq, Repr

/-- The handlers of the error output, the least level that is let through to them, and whether the
output is a terminal now. -/
structure Console where
  handlers : List Handler
  least : Level
  terminal : Bool
  deriving DecidableEq, Repr

namespace Console

/-- A console before anything is set up. -/
def initial (terminal : Bool) : Console :=
  { handlers := [], least := Level.warning, terminal }

/-- What is done with a console. -/
inductive Step where
  | setUp (least : Level) (colours : Bool)
  /-- The output turns into a terminal, or into something else. -/
  | setTerminal (terminal : Bool)
  | addSilent
  | log (level : Level) (message : String)
  | success (message : String)
  | progress (message : String)
  | heading (title : String)
  deriving DecidableEq, Repr

/-- The console with one handler that writes lines. -/
def setUp (c : Console) (least : Level) (colours : Bool) : Console :=
  let painter : Painter := ⟨.default, Painter.colouredOn (some c.terminal) colours⟩
  { c with handlers := [.lines least painter], least }

/-- A message without values, as an event. -/
def plainEvent (level : Level) (message : String) : Event :=
  { logger := "", level, template := message, values := [] }

/-- What a handler writes on a message. -/
def handlerText (level : Level) (message : String) : Handler → String
  | .silent => ""
  | .lines least painter =>
    if least ≤ level then
      match painter.line (plainEvent level message) with
      | .ok line => line ++ "\n"
      | .error _ => ""
    else ""

/-- What a console without handlers writes on a message. -/
def bareText (level : Level) (message : String) : String :=
  if Level.warning ≤ level then message ++ "\n" else ""

/-- What a console writes on a message. Levels from zero down are off. -/
def messageText (c : Console) (level : Level) (message : String) : String :=
  if 0 < level ∧ c.least ≤ level then
    if c.handlers.isEmpty then bareText level message
    else String.join (c.handlers.map (handlerText level message))
  else ""

/-- What a console writes on messages of the level of ordinary ones. -/
def infoText (c : Console) (messages : List String) : String :=
  String.join (messages.map (c.messageText Level.info))

/-- The console after a step, and what is written in the step. -/
def step (c : Console) : Step → Console × String
  | .setUp least colours => (c.setUp least colours, "")
  | .setTerminal terminal => ({ c with terminal }, "")
  | .addSilent => ({ c with handlers := c.handlers ++ [.silent] }, "")
  | .log level message => (c, c.messageText level message)
  | .success message => (c, c.infoText [Log.success message])
  | .progress message => (c, c.infoText [Log.progress message])
  | .heading title => (c, c.infoText (sectionLines title))

/-- The consoles and texts after each of the steps. -/
def run (c : Console) : List Step → List (Console × String)
  | [] => []
  | next :: rest =>
    let result := c.step next
    result :: run result.1 rest

end Console

end ModelGraph.Log
