import ModelGraph.Directive.Statement
import ModelGraph.Failure

/-!
# Directives

The documentation of a model may carry a directive: a marker with the tag "import" that lists the
statements which the generated module is to begin with. Only the first marker counts. Its
statements are taken, and the first occurrence of its text is erased from the documentation.
-/

namespace ModelGraph

/-- A directive that was taken out of a documentation. -/
structure Directive where
  statements : List String
  /-- The documentation without the marker. -/
  cleared : String
  deriving DecidableEq, Repr

namespace Directive

/-- The tag of the directives that are understood. -/
def importTag : String := "import"

/-- The directive of a documentation, nothing if it has no marker, or the tag of its first marker
if that is not "import". -/
def read (documentation : String) : Except String (Option Directive) :=
  match Marker.find? documentation.toList with
  | none => .ok none
  | some (_, marker, _) =>
    if marker.tag = importTag.toList then
      .ok (some
        { statements := (Marker.statements marker.payload).map String.ofList
          cleared := Text.erase (String.ofList marker.text) documentation })
    else
      .error (String.ofList marker.tag)

/-- The directive of an optional documentation. -/
def readOptional : Option String → Except String (Option Directive)
  | none => .ok none
  | some documentation => read documentation

/-- The directive of the documentation of a model. An unknown tag is a failure of the model. -/
def extract (documentation : Option String) (model : String) :
    Except Failure (Option Directive) :=
  (readOptional documentation).mapError (Failure.unknownTag model)

/-- Taking a directive out shortens the documentation. -/
theorem length_cleared_lt {documentation : String} {d : Directive}
    (h : read documentation = .ok (some d)) :
    d.cleared.toList.length < documentation.toList.length := by
  unfold read at h
  split at h
  · cases h
  · next before marker rest hfind =>
    split at h
    · cases h
      have hlength := Text.length_removeFirst (Marker.find?_eq_some hfind)
      have hmarker : 0 < marker.text.length := by simp [Marker.text, Marker.opening]
      simp only [Text.erase, String.toList_ofList]
      omega
    · cases h

/-- The directives of a documentation, each taken out of what the one before left, up to the first
marker with another tag, which is then given too. -/
def exhaust (documentation : String) : List Directive × Option String :=
  match h : read documentation with
  | .ok none => ([], none)
  | .ok (some d) =>
    let (more, tag) := exhaust d.cleared
    (d :: more, tag)
  | .error tag => ([], some tag)
termination_by documentation.toList.length
decreasing_by exact length_cleared_lt h

end Directive

end ModelGraph
