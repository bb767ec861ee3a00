import ModelGraph.Text.Classes
import ModelGraph.Text.Portion
import ModelGraph.Yaml.Quoted
import ModelGraph.Yaml.Token
import ModelGraph.Yaml.Unquoted

/-!
# Reading tokens

Outside brackets the indentation of lines opens and closes lists and objects. A key is known only
by the colon after it, so the place of everything that can be a key is kept as a candidate: at the
colon the tokens that open the key, and the object if need be, are put in at that place. A
candidate has to be followed by its colon on the same line and within `keyReach` characters.
-/

namespace ModelGraph.Yaml

/-- How many characters a key may take up to its colon. -/
def keyReach : Nat := 1024

/-- What can be a key if a colon follows. -/
structure Candidate where
  /-- The number of tokens before it. -/
  place : Nat
  position : Position
  /-- Whether nothing but a key can stand here. -/
  required : Bool
  deriving DecidableEq, Repr

/-- The state between two tokens. -/
structure Lexer where
  position : Position
  /-- The tokens so far, the last one first. -/
  tokens : List Token
  /-- The column of the innermost list or object outside brackets, and those around it. -/
  indent : Int
  outer : List Int
  /-- Whether a key may begin here. -/
  keyAllowed : Bool
  /-- The candidate inside each open bracket, the innermost first, and outside all of them. -/
  candidates : List (Option Candidate)
  deriving DecidableEq, Repr

namespace Lexer

/-- The state at the front of a text. -/
def initial : Lexer :=
  { position := ⟨0, 0, 0⟩, tokens := [], indent := -1, outer := [], keyAllowed := true,
    candidates := [none] }

/-- Whether a bracket is open. -/
def inFlow (l : Lexer) : Bool :=
  l.candidates.length > 1

/-- The state with one more token. -/
def push (l : Lexer) (t : Token) : Lexer :=
  { l with tokens := t :: l.tokens }

/-- The state with a token after the first `place` ones. -/
def pushAt (l : Lexer) (place : Nat) (t : Token) : Lexer :=
  { l with tokens := l.tokens.insertIdx (l.tokens.length - place) t }

/-- The state after some characters. -/
def advance (l : Lexer) (s : List Char) : Lexer :=
  { l with position := l.position.after s }

/-- The innermost candidate. -/
def candidate (l : Lexer) : Option Candidate :=
  l.candidates.head?.join

/-- The state with another innermost candidate. -/
def setCandidate (l : Lexer) (candidate : Option Candidate) : Lexer :=
  { l with candidates := candidate :: l.candidates.drop 1 }

/-- A candidate that is given up; one that had to be a key cannot be. -/
def giveUp : Option Candidate → Except Refusal (Option Candidate)
  | some c => if c.required then .error (.malformed .keyWithoutColon) else .ok none
  | none => .ok none

/-- The state without the innermost candidate. -/
def dropCandidate (l : Lexer) : Except Refusal Lexer :=
  (giveUp l.candidate).map l.setCandidate

/-- The state in which what follows is a candidate, if a key may begin here. -/
def saveCandidate (l : Lexer) : Except Refusal Lexer :=
  if l.keyAllowed then
    let required := !l.inFlow && l.indent == (l.position.column : Int)
    l.dropCandidate.map fun l => l.setCandidate (some ⟨l.tokens.length, l.position, required⟩)
  else .ok l

/-- The state without the candidates on which it is too late for a colon. -/
def expire (l : Lexer) : Except Refusal Lexer := do
  let candidates ← l.candidates.mapM fun candidate =>
    match candidate with
    | some c =>
      if c.position.line ≠ l.position.line ∨ c.position.index + keyReach < l.position.index then
        giveUp (some c)
      else .ok (some c)
    | none => .ok none
  return { l with candidates }

/-- Closes what is indented further than `column`; `outer` has the columns around it. -/
def closeTo (column : Int) (tokens : List Token) (indent : Int) :
    List Int → List Token × Int × List Int
  | [] => (tokens, indent, [])
  | next :: outer =>
    if indent > column then closeTo column (.blockEnd :: tokens) next outer
    else (tokens, indent, next :: outer)

/-- The state in which all that is indented further than `column` is closed. -/
def unwind (l : Lexer) (column : Int) : Lexer :=
  if l.inFlow then l
  else
    let (tokens, indent, outer) := closeTo column l.tokens l.indent l.outer
    { l with tokens, indent, outer }

/-- The state in which a column is an indentation, and whether it was none before. -/
def indentTo (l : Lexer) (column : Nat) : Lexer × Bool :=
  if l.indent < column then
    ({ l with indent := column, outer := l.indent :: l.outer }, true)
  else (l, false)

/-- The state in which a list or object that begins with `t` is open at this column. -/
def openBlock (l : Lexer) (t : Token) : Lexer :=
  match l.indentTo l.position.column with
  | (l, true) => l.push t
  | (l, false) => l

/-- The state after a directive or a mark between documents. -/
def endDocument (l : Lexer) : Except Refusal Lexer :=
  (l.unwind (-1)).dropCandidate.map fun l => { l with keyAllowed := false }

/-- How many brackets may be open at once. With one more of them, so many are settled that the
nodes they begin are too deep, and what comes next makes no difference. -/
def bracketLimit : Nat := depthLimit + 2 * keyReach

/-- The state after an opening bracket. -/
def openFlow (l : Lexer) (t : Token) : Except Refusal Lexer := do
  if bracketLimit < l.candidates.length then throw (.impossible .tooDeep)
  let l ← l.saveCandidate
  return { l.push t with candidates := none :: l.candidates, keyAllowed := true }

/-- The state after a closing bracket. -/
def closeFlow (l : Lexer) (t : Token) : Except Refusal Lexer := do
  let l ← l.dropCandidate
  if !l.inFlow then throw (.malformed .unopened)
  return { l.push t with candidates := l.candidates.drop 1, keyAllowed := false }

/-- The state after a comma. -/
def comma (l : Lexer) : Except Refusal Lexer :=
  l.dropCandidate.map fun l => { l.push .comma with keyAllowed := true }

/-- The state after the dash of an item. -/
def item (l : Lexer) : Except Refusal Lexer := do
  if !l.inFlow && !l.keyAllowed then throw (.malformed .misplacedEntry)
  let l := if l.inFlow then l else l.openBlock .blockListStart
  let l ← l.dropCandidate
  return { l.push .item with keyAllowed := true }

/-- The state after the question mark of a key. -/
def key (l : Lexer) : Except Refusal Lexer := do
  if !l.inFlow && !l.keyAllowed then throw (.malformed .misplacedKey)
  let l := if l.inFlow then l else l.openBlock .blockObjectStart
  let l ← l.dropCandidate
  return { l.push .key with keyAllowed := !l.inFlow }

/-- The state in which a candidate is a key. -/
def keyAt (l : Lexer) (c : Candidate) : Lexer :=
  let l := (l.setCandidate none).pushAt c.place .key
  if l.inFlow then l
  else
    match l.indentTo c.position.column with
    | (l, true) => l.pushAt c.place .blockObjectStart
    | (l, false) => l

/-- The state after the colon of a value. -/
def value (l : Lexer) : Except Refusal Lexer :=
  match l.candidate with
  | some c => .ok { (l.keyAt c).push .value with keyAllowed := false }
  | none => do
    if !l.inFlow && !l.keyAllowed then throw (.malformed .misplacedValue)
    let l := if l.inFlow then l else l.openBlock .blockObjectStart
    return { l.push .value with keyAllowed := !l.inFlow }

/-- The characters that begin something other than a plain scalar. -/
def indicators : List Char :=
  "-?:,[]\x7b\x7d#&*!|>\x27\x22%@".toList ++ ['\x60']

/-- Whether a plain scalar begins with `c` before `rest`. -/
def startsPlain (inFlow : Bool) (c : Char) (rest : List Char) : Bool :=
  (!indicators.contains c && !isGap c) ||
    (!atEdge rest && (c == '-' || (!inFlow && (c == '?' || c == ':'))))

/-- Reads a token that can be a key. -/
def keyToken (l : Lexer) (token : Except Refusal (Token × Nat)) :
    Except Refusal (Lexer × Nat) := do
  let l ← l.saveCandidate
  let (t, taken) ← token
  return ({ l.push t with keyAllowed := false }, taken)

/-- Reads a plain scalar. A key may begin after one that takes a line break. -/
def plain (l : Lexer) (s : List Char) : Except Refusal (Lexer × Nat) := do
  let l ← l.saveCandidate
  let (found, taken) := plainScalar l.inFlow (l.indent + 1).toNat s
  return ({ l.push (.scalar (String.ofList found.text) .plain) with keyAllowed := found.brokeLine },
    taken)

/-- Reads a block scalar. -/
def block (l : Lexer) (fold : Bool) (s : List Char) : Except Refusal (Lexer × Nat) := do
  let l ← l.dropCandidate
  let (text, taken) ← blockScalar fold (max 1 (l.indent + 1).toNat) s
  return ({ l.push (.scalar (String.ofList text) .quoted) with keyAllowed := true }, taken + 1)

/-- A token of one or three characters. -/
def mark (taken : Nat) (l : Except Refusal Lexer) : Except Refusal (Lexer × Nat) :=
  l.map fun l => (l, taken)

/-- A token with its indicator counted in. -/
def indicated (f : α → Token) (token : Except Refusal (α × Nat)) : Except Refusal (Token × Nat) :=
  token.map fun (a, taken) => (f a, taken + 1)

/-- The token of what stands in quotes, after the opening one. -/
def quotedToken (part : QuotedPart) : Token × Nat :=
  (.scalar (String.ofList part.letters) (if part.torn then .torn else .quoted), part.taken + 1)

/-- Reads a directive. -/
def directive (l : Lexer) (s : List Char) : Except Refusal (Lexer × Nat) := do
  let l ← l.endDocument
  let (directive, taken) ← readDirective s
  return (l.push (.directive directive), taken + 1)

/-- Reads the token that begins with `c` before `r`. -/
def token (l : Lexer) (c : Char) (r : List Char) : Except Refusal (Lexer × Nat) :=
  let s := c :: r
  let lineStart := l.position.column == 0
  let open_ := l.inFlow || atEdge r
  if c = '%' ∧ lineStart then l.directive r
  else if lineStart && atMarkOf '-' s then mark 3 (l.endDocument.map (push · .documentStart))
  else if lineStart && atMarkOf '.' s then mark 3 (l.endDocument.map (push · .documentEnd))
  else if c = '[' then mark 1 (l.openFlow .flowListStart)
  else if c = '\x7b' then mark 1 (l.openFlow .flowObjectStart)
  else if c = ']' then mark 1 (l.closeFlow .flowListEnd)
  else if c = '\x7d' then mark 1 (l.closeFlow .flowObjectEnd)
  else if c = ',' then mark 1 l.comma
  else if c = '-' ∧ atEdge r then mark 1 l.item
  else if c = '?' ∧ open_ then mark 1 l.key
  else if c = ':' ∧ open_ then mark 1 l.value
  else if c = '*' then l.keyToken (indicated .alias (anchorName r))
  else if c = '&' then l.keyToken (indicated .anchor (anchorName r))
  else if c = '!' then l.keyToken ((readTag s).map fun (tag, taken) => (.tag tag, taken))
  else if c = '|' ∧ !l.inFlow then l.block false r
  else if c = '>' ∧ !l.inFlow then l.block true r
  else if c = '\x27' ∨ c = '\x22' then
    l.keyToken ((quotedScalar c r).map quotedToken)
  else if startsPlain l.inFlow c r then l.plain s
  else .error (.malformed .unexpectedCharacter)

/-- The tokens that no key can come before any more, the first one first. -/
def settled (l : Lexer) : List Token :=
  let places := l.candidates.filterMap fun candidate => candidate.map Candidate.place
  l.tokens.reverse.take (places.foldl min l.tokens.length)

/-- Why reading stops, and what is known by then. -/
structure Stop where
  refusal : Refusal
  known : List Token

/-- What comes out in a state, where a refusal leaves the settled tokens of that state. -/
def orStop (l : Lexer) (result : Except Refusal α) : Except Stop α :=
  result.mapError fun refusal => ⟨refusal, l.settled⟩

/-- Reads the token at the front of a text, and gives up the candidates that end with it. -/
def readToken (l : Lexer) (c : Char) (r : List Char) : Except Refusal (Lexer × Nat) := do
  let l ← l.expire
  let (l, taken) ← (l.unwind l.position.column).token c r
  return (← (l.advance ((c :: r).take taken)).expire, taken)

/-- Reads the token at the front of a text after which `ending` shows up. One character after a
token has to be there, and one more. -/
def readBefore (ending : Option Refusal) (l : Lexer) (c : Char) (r : List Char) :
    Except Refusal (Lexer × Nat) :=
  match ending, l.readToken c r with
  | none, result => result
  | some refusal, .ok (l, taken) => if taken < r.length then .ok (l, taken) else .error refusal
  | some refusal, .error (.malformed .unclosedQuote) => .error refusal
  | some refusal, .error other => if r.isEmpty then .error refusal else .error other

/-- Goes on over what stands at the front of a text: space, a comment, a line break, or a token. -/
def step (ending : Option Refusal) (l : Lexer) (s : List Char) :
    Except Stop (Walk.Move Lexer Lexer) :=
  let onward (l : Lexer) (taken : Nat) : Walk.Move Lexer Lexer :=
    .go (l.advance (s.take taken)) taken
  match s with
  | [] => .ok (.stop l 0)
  | c :: r =>
    if c = ' ' ∨ (c = '\ufeff' ∧ l.position.index = 0) then .ok (onward l 1)
    else if c = '#' then .ok (onward l (s.length - (toLineEnd s).length))
    else if isBreak c then .ok (onward { l with keyAllowed := l.keyAllowed || !l.inFlow } 1)
    else l.orStop ((readBefore ending l c r).map fun (l, taken) => .go l taken)

/-- The state at the end of a text, where all that is open outside brackets is closed. -/
def finish (ending : Option Refusal) (l : Lexer) : Except Stop Lexer :=
  l.orStop do
    if let some refusal := ending then throw refusal
    let l ← l.expire
    (l.unwind (-1)).dropCandidate

end Lexer

/-- The ranges of the characters that a text may have. -/
def allowedRanges : List (Nat × Nat) :=
  [(9, 10), (13, 13), (32, 126), (133, 133), (160, 0xd7ff), (0xe000, 0xfffd),
   (0x10000, 0x10ffff)]

/-- The tokens of a text, and what the text is refused for after them if it is refused. -/
structure Tokens where
  known : List Token
  refusal : Option Refusal

/-- Reads the tokens of a text, where `ending` shows up after what is there of it. -/
def Tokens.before (ending : Option Refusal) (s : List Char) : Tokens :=
  match Walk.run (Lexer.step ending) (Lexer.finish ending) 0 Lexer.initial s with
  | .ok (l, _) => ⟨l.tokens.reverse, none⟩
  | .error stop => ⟨stop.known, some stop.refusal⟩

/-- Whether a text may have a character. -/
def isAllowed (c : Char) : Bool :=
  Text.inRanges allowedRanges c

/-- Reads the tokens of a stream. A portion in which some character is not allowed is refused as a
whole. -/
def Tokens.ofStream (stream : Text.Stream) : Tokens :=
  let s := stream.letters
  let good := s.takeWhile isAllowed
  if good.length < s.length then
    .before (some (.malformed .unprintable)) (s.take (Text.Stream.before good.length))
  else .before (stream.failure.map .undecodable) s

end ModelGraph.Yaml
