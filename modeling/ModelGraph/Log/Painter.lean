import ModelGraph.Log.Layout
import ModelGraph.Log.Style

/-!
# Painters

A painter lays events out as lines, and paints the lines if it was asked to and the output is a
terminal. Whether it is one is found out when the painter is made.
-/

namespace ModelGraph.Log

/-- What turns events into lines. -/
structure Painter where
  layout : Layout
  coloured : Bool
  deriving DecidableEq, Repr

namespace Painter

/-- Whether lines are painted, when it is `wanted`. An output that cannot tell whether it is a
terminal is none. -/
def colouredOn (terminal : Option Bool) (wanted : Bool) : Bool :=
  wanted && terminal.getD false

/-- A painter with a layout. -/
def make (template : Option String) (terminal : Option Bool) (wanted : Bool) :
    Except Layout.Refusal Painter :=
  (Layout.ofRequest template).map fun layout => ⟨layout, colouredOn terminal wanted⟩

/-- A line of a message in its style, if the painter uses colours. -/
def finish (p : Painter) (levelName message line : String) : String :=
  if p.coloured then (Style.of levelName message).paint line else line

/-- The line of an event. -/
def line (p : Painter) (e : Event) : Except Layout.Refusal String :=
  match e.message with
  | .ok message => (p.layout.line e).map (p.finish e.levelName message)
  | .error refusal => .error (.values refusal)

end Painter

end ModelGraph.Log
