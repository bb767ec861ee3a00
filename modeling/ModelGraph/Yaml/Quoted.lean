import ModelGraph.Text.Numeral
import ModelGraph.Yaml.Line

/-!
# Quoted scalars

A scalar in quotes may go over several lines, whose breaks fold. In single quotes a quote is
written twice; in double quotes a backslash begins an escape. Every reader gives what it read and
the number of characters it took.
-/

namespace ModelGraph.Yaml

/-- Reads the breaks after a first one, and the blanks around them. A mark between documents cannot
stand here. -/
def breaksInQuotes (s : List Char) : Except Refusal (List Char × Nat) :=
  let step (state : Bool × List Char) (s : List Char) :
      Except Refusal (Walk.Move (Bool × List Char) (List Char)) :=
    let (lineStart, breaks) := state
    match s with
    | [] => .ok (.stop breaks.reverse 0)
    | c :: _ =>
      if lineStart && atMark s then .error (.malformed .markInQuotes)
      else if isGap c then .ok (.go (false, breaks) 1)
      else if isBreak c then .ok (.go (true, breakText c :: breaks) 1)
      else .ok (.stop breaks.reverse 0)
  Walk.run step (fun state => .ok state.2.reverse) 0 (true, []) s

/-- The escapes of one character. -/
def plainEscapes : List (Char × Char) :=
  [('0', '\x00'), ('a', '\x07'), ('b', '\x08'), ('t', '\t'), ('\t', '\t'), ('n', '\n'),
   ('v', '\x0b'), ('f', '\x0c'), ('r', '\r'), ('e', '\x1b'), (' ', ' '), ('\x22', '\x22'),
   ('\\', '\\'), ('/', '/'), ('N', '\x85'), ('_', '\xa0'), ('L', '\u2028'), ('P', '\u2029')]

/-- The escapes by code, with the number of their digits. -/
def codeEscapes : List (Char × Nat) :=
  [('x', 2), ('u', 4), ('U', 8)]

/-- What an escape stands for, or a run of other characters: the characters, whether they have
halves of characters among them, and how many characters they are written with. -/
structure QuotedPart where
  letters : List Char
  torn : Bool
  taken : Nat

/-- What is written without an escape by code. -/
def QuotedPart.whole (part : List Char × Nat) : QuotedPart :=
  ⟨part.1, false, part.2⟩

/-- Reads a code of `width` digits. -/
def escapeCode (width : Nat) (s : List Char) : Except Refusal Nat :=
  let digits := s.take width
  if digits.length = width ∧ digits.all (Text.isDigitOf 16) then .ok (Text.numeral 16 digits)
  else .error (.malformed .badEscape)

/-- Whether a code is the first half of a character. -/
def isFirstHalf (code : Nat) : Bool :=
  0xd800 ≤ code && code < 0xdc00

/-- Whether a code is the second half of a character. -/
def isSecondHalf (code : Nat) : Bool :=
  0xdc00 ≤ code && code < 0xe000

/-- Reads an escape for the second half of a character. -/
def secondHalf? : List Char → Option (Nat × Nat)
  | '\\' :: c :: r =>
    match codeEscapes.lookup c with
    | none => none
    | some width =>
      match escapeCode width r with
      | .ok code => if isSecondHalf code then some (code, width + 2) else none
      | .error _ => none
  | _ => none

/-- The character of two halves. -/
def joined (first second : Nat) : Char :=
  Char.ofNat (0x10000 + (first - 0xd800) * 0x400 + (second - 0xdc00))

/-- What a half of a character is read as when the other one is missing. -/
def loneHalf : Char := '\ufffd'

/-- Reads an escape by code after its letter. The halves of a character are joined. -/
def escapeByCode (width : Nat) (s : List Char) : Except Refusal QuotedPart := do
  let code ← escapeCode width s
  if 0x80000000 ≤ code then throw (.impossible .hugeCharacter)
  if 0x110000 ≤ code then throw (.impossible .noSuchCharacter)
  if isFirstHalf code then
    match secondHalf? (s.drop width) with
    | some (second, taken) => return ⟨[joined code second], true, width + taken⟩
    | none => return ⟨[loneHalf], true, width⟩
  if isSecondHalf code then return ⟨[loneHalf], true, width⟩
  return ⟨[Char.ofNat code], false, width⟩

/-- Reads an escape after its backslash. An escaped break goes away with the blanks after it. -/
def escape : List Char → Except Refusal QuotedPart
  | [] => .error (.malformed .badEscape)
  | c :: r =>
    match plainEscapes.lookup c, codeEscapes.lookup c with
    | some meant, _ => .ok ⟨[meant], false, 1⟩
    | none, some width =>
      (escapeByCode width r).map fun part => { part with taken := part.taken + 1 }
    | none, none =>
      if isBreak c then
        (breaksInQuotes r).map fun (breaks, taken) => ⟨breaks, false, taken + 1⟩
      else .error (.malformed .badEscape)

/-- Reads blanks inside quotes, and the breaks if the line ends there. -/
def gapInQuotes (s : List Char) : Except Refusal (List Char × Nat) :=
  let gap := s.takeWhile isGap
  match s.drop gap.length with
  | [] => .error (.malformed .unclosedQuote)
  | c :: r =>
    if isBreak c then
      (breaksInQuotes r).map fun (breaks, taken) => (folded c breaks, gap.length + 1 + taken)
    else .ok (gap, gap.length)

/-- Reads a quoted scalar after its opening quote. -/
def quotedScalar (quote : Char) (s : List Char) : Except Refusal QuotedPart :=
  let double := quote == '\x22'
  let step (found : List Char × Bool) (s : List Char) :
      Except Refusal (Walk.Move (List Char × Bool) (List Char × Bool)) :=
    let onward (before : Nat) (part : QuotedPart) :
        Walk.Move (List Char × Bool) (List Char × Bool) :=
      .go (part.letters.reverse ++ found.1, found.2 || part.torn) (before + part.taken)
    match s with
    | [] => .ok (.stop found 0)
    | c :: r =>
      if c = quote then
        if !double && r.head? == some quote then .ok (onward 2 ⟨[quote], false, 0⟩)
        else .ok (.stop found 1)
      else if double && c == '\\' then (escape r).map (onward 1)
      else if isGap c || isBreak c then
        (gapInQuotes s).map fun part => onward 0 (QuotedPart.whole part)
      else .ok (onward 1 ⟨[c], false, 0⟩)
  (Walk.run step (fun _ => .error (.malformed .unclosedQuote)) 0 ([], false) s).map
    fun ((found, torn), taken) => ⟨found.reverse, torn, taken⟩

end ModelGraph.Yaml
