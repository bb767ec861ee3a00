import ModelGraph.Walk
import ModelGraph.Yaml.Fault

/-!
# Lines

Where lines break, what stands at the edge of a word, and how the breaks inside a text fold. A
single break folds into a blank; of several breaks the first one goes away and the others stay.
-/

namespace ModelGraph.Yaml

/-- Whether `c` breaks a line. -/
def isBreak (c : Char) : Bool :=
  c == '\n' || c == '\x85' || c == '\u2028' || c == '\u2029'

/-- Whether `c` makes space within a line. -/
def isGap (c : Char) : Bool :=
  c == ' ' || c == '\t'

/-- What a break is read as. -/
def breakText (c : Char) : Char :=
  if c = '\x85' then '\n' else c

/-- Whether a text is at the end of a line. -/
def atLineEnd (s : List Char) : Bool :=
  s.head?.all isBreak

/-- Whether a text is at the end of a line or at a blank. -/
def atBlank (s : List Char) : Bool :=
  s.head?.all fun c => c == ' ' || isBreak c

/-- Whether a text is at the edge of a word: at a blank, at a tab or at the end of a line. -/
def atEdge (s : List Char) : Bool :=
  s.head?.all fun c => isGap c || isBreak c

/-- Whether three characters and an edge are at the front of a text. -/
def atMarkOf (c : Char) : List Char → Bool
  | a :: b :: d :: r => a == c && b == c && d == c && atEdge r
  | _ => false

/-- Whether a mark between documents is at the front of a text. -/
def atMark (s : List Char) : Bool :=
  atMarkOf '-' s || atMarkOf '.' s

/-- The text without the spaces at its front. -/
def skipSpaces (s : List Char) : List Char :=
  s.dropWhile (· == ' ')

/-- The text from the end of its first line on. -/
def toLineEnd (s : List Char) : List Char :=
  s.dropWhile fun c => !isBreak c

/-- The text without spaces and a comment at its front. -/
def afterComment (s : List Char) : List Char :=
  if (skipSpaces s).head? = some '#' then toLineEnd s else skipSpaces s

/-- What is left of a break and the breaks after it. -/
def folded (first : Char) (more : List Char) : List Char :=
  if breakText first ≠ '\n' then breakText first :: more
  else if more.isEmpty then [' ']
  else more

/-- A place in a text. -/
structure Position where
  index : Nat
  line : Nat
  column : Nat
  deriving DecidableEq, Repr

/-- The place after a character. A byte order mark takes no column. -/
def Position.next (p : Position) (c : Char) : Position :=
  if isBreak c then ⟨p.index + 1, p.line + 1, 0⟩
  else if c = '\ufeff' then { p with index := p.index + 1 }
  else { p with index := p.index + 1, column := p.column + 1 }

/-- The place after a text. -/
def Position.after (p : Position) (s : List Char) : Position :=
  s.foldl Position.next p

end ModelGraph.Yaml
