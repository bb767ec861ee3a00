import ModelGraph.Text.Utf8
import ModelGraph.Text.Numeral
import ModelGraph.Yaml.Line

/-!
# Tokens

The tokens of a YAML text, and the readers of those that are made of names: anchors, aliases, tags
and directives. Every reader gives what it read and the number of characters it took.
-/

namespace ModelGraph.Yaml

/-- A tag as it is written: with a handle that stands for the beginning of it, or whole. -/
structure Tag where
  handle : Option String
  suffix : String
  deriving DecidableEq, Repr

/-- A directive at the head of a document. -/
inductive Directive where
  /-- The version of YAML, of which only the major part matters. -/
  | version (major : Nat)
  /-- What a handle stands for. -/
  | handle (name meaning : String)
  | other
  deriving DecidableEq, Repr

/-- How a scalar is written. -/
inductive Style where
  | plain
  /-- In quotes, or in a block. -/
  | quoted
  /-- In quotes, with halves of characters. -/
  | torn
  deriving DecidableEq, Repr

/-- A token. -/
inductive Token where
  | directive (directive : Directive)
  | documentStart
  | documentEnd
  | blockListStart
  | blockObjectStart
  | blockEnd
  | flowListStart
  | flowListEnd
  | flowObjectStart
  | flowObjectEnd
  /-- The dash of an item. -/
  | item
  /-- The comma between items or entries in brackets. -/
  | comma
  | key
  | value
  | anchor (name : String)
  | alias (name : String)
  | tag (tag : Tag)
  | scalar (text : String) (style : Style)
  deriving DecidableEq, Repr

/-- Whether `c` may stand in a name. -/
def isNameChar (c : Char) : Bool :=
  c.isAlphanum || c == '-' || c == '_'

/-- The punctuation that may follow the name of an anchor. -/
def nameStops : List Char :=
  "?:,]\x7d%@".toList ++ ['\x60']

/-- Reads the name of an anchor or alias. -/
def anchorName (s : List Char) : Except Refusal (String × Nat) :=
  let name := s.takeWhile isNameChar
  let rest := s.drop name.length
  if name.isEmpty || !(atEdge rest || rest.head?.any nameStops.contains) then
    .error (.malformed .badName)
  else .ok (String.ofList name, name.length)

/-! ## Tags -/

/-- The punctuation of tags. -/
def tagPunctuation : List Char :=
  "-;/?:@&=+$,_.!~*'()[]".toList

/-- Reads a character that is written by its bytes, each as a percent sign and two digits. -/
def tagBytes (s : List Char) : Except Refusal (List UInt8 × Nat) :=
  let step (bytes : List UInt8) (s : List Char) :
      Except Refusal (Walk.Move (List UInt8) (List UInt8)) :=
    match s with
    | '%' :: a :: b :: _ =>
      if Text.isDigitOf 16 a && Text.isDigitOf 16 b then
        .ok (.go (UInt8.ofNat (Text.numeral 16 [a, b]) :: bytes) 3)
      else .error (.malformed .badTag)
    | '%' :: _ => .error (.malformed .badTag)
    | _ => .ok (.stop bytes.reverse 0)
  Walk.run step (fun bytes => .ok bytes.reverse) 0 [] s

/-- Reads the text of a tag, which is not empty. -/
def tagText (s : List Char) : Except Refusal (List Char × Nat) := do
  let step (found s : List Char) : Except Refusal (Walk.Move (List Char) (List Char)) :=
    match s with
    | '%' :: _ => do
      let (bytes, taken) ← tagBytes s
      match Text.Utf8.decode bytes with
      | .ok text => return .go (text.reverse ++ found) taken
      | .error _ => throw (.malformed .badTag)
    | c :: _ =>
      if c.isAlphanum || tagPunctuation.contains c then .ok (.go (c :: found) 1)
      else .ok (.stop found.reverse 0)
    | [] => .ok (.stop found.reverse 0)
  let (text, taken) ← Walk.run step (fun found => .ok found.reverse) 0 [] s
  if text.isEmpty then throw (.malformed .badTag)
  return (text, taken)

/-- Reads a handle: an exclamation mark alone, or a name between two of them. -/
def tagHandle : List Char → Except Refusal (String × Nat)
  | '!' :: r =>
    if r.head? == some ' ' then .ok ("!", 1)
    else
      let name := r.takeWhile isNameChar
      if (r.drop name.length).head? == some '!' then
        .ok (String.ofList ('!' :: name ++ ['!']), name.length + 2)
      else .error (.malformed .badTag)
  | _ => .error (.malformed .badTag)

/-- Reads a tag that is written whole, between angle brackets. -/
def verbatimTag (s : List Char) : Except Refusal (Tag × Nat) := do
  let (text, taken) ← tagText (s.drop 2)
  match s.drop (2 + taken) with
  | '>' :: _ => return (⟨none, String.ofList text⟩, taken + 3)
  | _ => throw (.malformed .badTag)

/-- Reads a tag with a handle. The handle is the exclamation mark alone unless the tag has a second
one. -/
def shortTag (s : List Char) : Except Refusal (Tag × Nat) := do
  let word := s.takeWhile fun c => !(c == ' ' || isBreak c)
  let (handle, before) ←
    if (word.drop 1).contains '!' then tagHandle s else pure ("!", 1)
  let (text, taken) ← tagText (s.drop before)
  return (⟨some handle, String.ofList text⟩, before + taken)

/-- Reads a tag from its exclamation mark on. -/
def readTag (s : List Char) : Except Refusal (Tag × Nat) := do
  let r := s.drop 1
  let (tag, taken) ←
    if r.head? == some '<' then verbatimTag s
    else if atEdge r then pure (⟨none, "!"⟩, 1)
    else shortTag s
  if atBlank (s.drop taken) then return (tag, taken)
  throw (.malformed .badTag)

/-! ## Directives -/

/-- Reads a part of a version and gives the text after it. -/
def versionPart (s : List Char) : Except Refusal (Nat × List Char) :=
  let (digits, rest) := Text.spanDigits 10 s
  if digits.isEmpty then .error (.malformed .badDirective)
  else if digitLimit < digits.length then .error (.impossible (.longInteger digits.length))
  else .ok (Text.numeral 10 digits, rest)

/-- Reads the version of YAML and gives the text after it. -/
def versionDirective (s : List Char) : Except Refusal (Directive × List Char) := do
  let (major, rest) ← versionPart (skipSpaces s)
  match rest with
  | '.' :: rest =>
    let (_, rest) ← versionPart rest
    if atBlank rest then return (.version major, rest)
    throw (.malformed .badDirective)
  | _ => throw (.malformed .badDirective)

/-- Reads what a handle stands for and gives the text after it. -/
def handleDirective (s : List Char) : Except Refusal (Directive × List Char) := do
  let s := skipSpaces s
  let (name, taken) ← tagHandle s
  let s := s.drop taken
  if s.head? ≠ some ' ' then throw (.malformed .badDirective)
  let s := skipSpaces s
  let (meaning, taken) ← tagText s
  if !atBlank (s.drop taken) then throw (.malformed .badDirective)
  return (.handle name (String.ofList meaning), s.drop taken)

/-- Reads a directive after its percent sign, with the rest of its line. -/
def readDirective (s : List Char) : Except Refusal (Directive × Nat) := do
  let name := s.takeWhile isNameChar
  let rest := s.drop name.length
  if name.isEmpty || !atBlank rest then throw (.malformed .badDirective)
  let (directive, rest) ←
    if name = "YAML".toList then versionDirective rest
    else if name = "TAG".toList then handleDirective rest
    else pure (.other, toLineEnd rest)
  let lineEnd := afterComment rest
  if !atLineEnd lineEnd then throw (.malformed .badDirective)
  return (directive, s.length - (lineEnd.drop 1).length)

end ModelGraph.Yaml
