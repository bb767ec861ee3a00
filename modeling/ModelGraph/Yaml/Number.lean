import ModelGraph.Decimal.Shortest
import ModelGraph.Text.Case
import ModelGraph.Text.Classes
import ModelGraph.Text.Numeral
import ModelGraph.Yaml.Fault

/-!
# Numbers

An integer is written in base 2, 8, 10 or 16, and a real with a point in it. Underscores may stand
between the digits of either. Parts with colons between them count sixty of the next one each.
Texts of these forms are numbers without being asked; a tag asks for a number in other forms too,
such as with blanks around it or with the digits of another script.
-/

namespace ModelGraph.Yaml.Number

/-! ## The forms of numbers -/

/-- Whether `c` is a decimal digit or an underscore. -/
def isSpacedDigit (c : Char) : Bool :=
  c.isDigit || c == '_'

/-- Whether a text is a digit and then digits and underscores. -/
def isSpacedNumeral : List Char → Bool
  | [] => false
  | c :: r => c.isDigit && r.all isSpacedDigit

/-- The sign of a text and what follows it. -/
def splitSign : List Char → Bool × List Char
  | '-' :: r => (true, r)
  | '+' :: r => (false, r)
  | s => (false, s)

/-- The parts of a text between colons. -/
def colonParts (s : List Char) : List (List Char) :=
  s.splitOn ':'

/-- Whether a text is a number below sixty, in one or two digits. -/
def isSixtieth : List Char → Bool
  | [a] => a.isDigit
  | [a, b] => '0' ≤ a && a ≤ '5' && b.isDigit
  | _ => false

/-- Whether a text is a number and then numbers below sixty, with colons between them. -/
def isSexagesimal (s : List Char) : Bool :=
  match colonParts s with
  | first :: rest => isSpacedNumeral first && !rest.isEmpty && rest.all isSixtieth
  | [] => false

/-- Whether a text is not empty and has only digits of a base, and underscores. -/
def isDigitsOf (base : Nat) (s : List Char) : Bool :=
  !s.isEmpty && s.all fun c => Text.isDigitOf base c || c == '_'

/-- Whether a text is an integer. -/
def isInteger (s : List Char) : Bool :=
  match (splitSign s).2 with
  | ['0'] => true
  | '0' :: 'b' :: r => isDigitsOf 2 r
  | '0' :: 'x' :: r => isDigitsOf 16 r
  | '0' :: r => isDigitsOf 8 r
  | r => isSpacedNumeral r || isSexagesimal r

/-- Whether a text is a power of ten at the end of a real, or nothing. -/
def isExponent : List Char → Bool
  | [] => true
  | e :: sign :: digits =>
    (e == 'e' || e == 'E') && (sign == '+' || sign == '-') && !digits.isEmpty &&
      digits.all Char.isDigit
  | _ => false

/-- Whether a text is a real that begins with its point. It has a digit after the point. -/
def isFraction : List Char → Bool
  | '.' :: r =>
    let digits := r.takeWhile isSpacedDigit
    isSpacedNumeral digits && isExponent (r.drop digits.length)
  | _ => false

/-- Whether a text is a real with digits before its point. -/
def isPointed (s : List Char) : Bool :=
  let whole := s.takeWhile fun c => c != '.'
  match s.drop whole.length with
  | '.' :: r =>
    let rest := r.dropWhile isSpacedDigit
    (isSpacedNumeral whole && isExponent rest) || (isSexagesimal whole && rest.isEmpty)
  | _ => false

/-- The texts of infinity. -/
def infinities : List String :=
  [".inf", ".Inf", ".INF"]

/-- The texts that stand for no number. -/
def notNumbers : List String :=
  [".nan", ".NaN", ".NAN"]

/-- Whether a text is a real. -/
def isReal (s : List Char) : Bool :=
  let size := (splitSign s).2
  isPointed size || isFraction s || infinities.contains (String.ofList size) ||
    notNumbers.contains (String.ofList s)

/-! ## Reading -/

/-- The digits of a text with underscores. -/
def withoutUnderscores (s : List Char) : List Char :=
  s.filter (· != '_')

/-- Whether `c` may stand around a number. -/
def isAround (c : Char) : Bool :=
  c == ' ' || ('\t' ≤ c && c ≤ '\r')

/-- A character with the digits and the blanks of all scripts in their ASCII forms. A blank of
ASCII stays what it is. -/
def plainForm (c : Char) : Char :=
  if c.toNat < 128 then c
  else if Text.isBlank c then ' '
  else (Text.decimalValue? c).elim c Nat.digitChar

/-- The text without what may stand at the front of a number. -/
def atNumber (s : List Char) : List Char :=
  (s.map plainForm).dropWhile isAround

/-- The text after the mark of a base, if it begins with one. -/
def afterMark (base : Nat) : List Char → List Char
  | '0' :: c :: r =>
    let marks := if base = 2 then ['b', 'B'] else if base = 8 then ['o', 'O']
      else if base = 16 then ['x', 'X'] else []
    if marks.contains c then r else '0' :: c :: r
  | s => s

/-- Reads an integer of some base. The number of its digits is limited when the base is ten. -/
def integerIn (base : Nat) (s : List Char) : Except Impossible Int :=
  let (negative, r) := splitSign (atNumber s)
  let (digits, rest) := Text.spanDigits base (afterMark base r)
  if base = 10 ∧ digitLimit < digits.length then .error (.longInteger digits.length)
  else if digits.isEmpty || !rest.all isAround then .error (.notInteger base (String.ofList s))
  else
    let size : Int := Text.numeral base digits
    .ok (if negative then -size else size)

/-- Reads an integer without its sign. -/
def integerSize : List Char → Except Impossible Int
  | [] => .error .emptyNumber
  | ['0'] => .ok 0
  | '0' :: 'b' :: r => integerIn 2 r
  | '0' :: 'x' :: r => integerIn 16 r
  | '0' :: r => integerIn 8 ('0' :: r)
  | s => do
    let parts ← (colonParts s).mapM (integerIn 10)
    return parts.foldl (fun n part => 60 * n + part) 0

/-- Reads an integer. -/
def integer (s : List Char) : Except Impossible Int :=
  let (negative, size) := splitSign (withoutUnderscores s)
  (integerSize size).map fun n => if negative then -n else n

/-- The power of ten that a text begins with, and what follows it. A letter without digits is no
power. -/
def power : List Char → Int × List Char
  | 'e' :: r =>
    let (negative, r') := splitSign r
    let (digits, rest) := Text.spanDigits 10 r'
    let size : Int := Text.numeral 10 digits
    if digits.isEmpty then (0, 'e' :: r) else (if negative then -size else size, rest)
  | s => (0, s)

/-- Reads a decimal without its sign, and gives the text after it. -/
def decimal? (s : List Char) : Option (Float × List Char) :=
  let (whole, rest) := Text.spanDigits 10 s
  let (fraction, rest) :=
    match rest with
    | '.' :: r => Text.spanDigits 10 r
    | _ => ([], rest)
  let (power, rest) := power rest
  let digits := whole ++ fraction
  if digits.isEmpty then none
  else some (Decimal.Digits.toFloat ⟨Text.numeral 10 digits, power - fraction.length⟩, rest)

/-- The words that are reals. -/
def words : List (String × Float) :=
  [("infinity", Decimal.infinity), ("inf", Decimal.infinity), ("nan", 0 / 0)]

/-- Reads a word without its sign, and gives the text after it. -/
def word? (s : List Char) : Option (Float × List Char) :=
  words.findSome? fun (word, x) =>
    if word.toList.isPrefixOf s then some (x, s.drop word.length) else none

/-- Reads a real in lower case. -/
def realIn (s : List Char) : Except Impossible Float :=
  let (negative, r) := splitSign (atNumber s)
  match (word? r).or (decimal? r) with
  | some (x, rest) =>
    if rest.all isAround then .ok (if negative then -x else x)
    else .error (.notReal (String.ofList s))
  | none => .error (.notReal (String.ofList s))

/-- The sum of parts, the last one first, of which each counts sixty of the one before it; the first
one counts `unit`. -/
def sumOfParts (sum : Float) (unit : Nat) : List Float → Except Impossible Float
  | [] => .ok sum
  | x :: rest =>
    let size := Decimal.Digits.toFloat ⟨unit, 0⟩
    if size.isInf then .error .hugeUnit else sumOfParts (sum + x * size) (60 * unit) rest

/-- Whether a text with a point names what is no number. -/
def isNotANumber (s : List Char) : Bool :=
  (splitSign (Text.lower (withoutUnderscores s))).2 == ".nan".toList

/-- Reads a real. -/
def real (s : List Char) : Except Impossible Float := do
  let s := Text.lower (withoutUnderscores s)
  if s.isEmpty then throw .emptyNumber
  let (negative, s) := splitSign s
  if s = ".nan".toList then return 0 / 0
  let x ←
    if s = ".inf".toList then pure Decimal.infinity
    else if s.contains ':' then
      (colonParts s).mapM realIn >>= fun parts => sumOfParts 0 1 parts.reverse
    else realIn s
  return if negative then -x else x

end ModelGraph.Yaml.Number
