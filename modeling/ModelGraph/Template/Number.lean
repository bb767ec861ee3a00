import ModelGraph.Decimal.Places
import ModelGraph.Template.Basic
import ModelGraph.Template.Refusal
import ModelGraph.Value

/-!
# Numbers in a template

A number has a sign, perhaps the mark of its base, and digits. Its letter decides on the base and on
the form of the digits; a precision is the least number of digits of an integer and the number of
places of a real.
-/

namespace ModelGraph.Template

/-- A number as it goes into its place. -/
structure Figure where
  negative : Bool
  mark : String
  digits : String

/-- The integer that an integer or a truth value is. -/
def integer? : Value → Option Int
  | .scalar a => a.integer?
  | _ => none

/-- What a number stands for. -/
def reading (value : Value) : Except Refusal Decimal.Reading :=
  match value, integer? value with
  | .scalar (.real x), _ => .ok (Decimal.read x)
  | _, some n =>
    match Decimal.read (Float.ofInt n) with
    | .infinite _ => .error .largeReal
    | found => .ok found
  | _, none => .error (.notReal value.kindName)

/-- The integer of a number under a letter, where places after the point are cut off. -/
def truncated (letter : Char) (value : Value) : Except Refusal Int :=
  match value, integer? value with
  | .scalar (.real x), _ =>
    match Decimal.read x, (Decimal.read x).value? with
    | _, some v => .ok (if v < 0 then v.ceil else v.floor)
    | .infinite _, none => .error .infiniteInteger
    | _, none => .error .undefinedInteger
  | _, some n => .ok n
  | _, none => .error (.notNumber letter value.kindName)

/-- The greatest precision of an integer. -/
def precisionLimit : Nat := Nat.pow 2 31 - 4

/-- The least number of digits that a precision asks for. -/
def leastDigits (precision : Option Nat) : Except Refusal Nat :=
  let least := precision.getD 0
  if precisionLimit < least then .error .preciseInteger else .ok least

/-- An integer in a base, with at least `least` digits. -/
def integerFigure (base least : Nat) (mark : String) (n : Int) : Figure :=
  let digits := Nat.toDigits base n.natAbs
  { negative := n < 0
    mark
    digits := String.ofList (List.replicate (least - digits.length) '0' ++ digits) }

/-- A text in upper case, for letters that are. -/
def inCaseOf (letter : Char) (s : String) : String :=
  if letter.isUpper then String.ofList (s.toList.map Char.toUpper) else s

/-- The base that a letter for integers stands for. -/
def baseOf? (letter : Char) : Option Nat :=
  if letter = 'd' ∨ letter = 'i' ∨ letter = 'u' then some 10
  else if letter = 'o' then some 8
  else if letter = 'x' ∨ letter = 'X' then some 16
  else none

/-- The number under a letter for integers. -/
def integerUnder (letter : Char) (base : Nat) (alternate : Bool) (precision : Option Nat)
    (value : Value) : Except Refusal Figure := do
  if base = 10 then
    let n ← truncated letter value
    return integerFigure 10 (← leastDigits precision) "" n
  else
    match integer? value with
    | some n =>
      let mark := if alternate then String.ofList ['0', letter] else ""
      let figure := integerFigure base (← leastDigits precision) mark n
      return { figure with digits := inCaseOf letter figure.digits }
    | none => throw (.notInteger letter value.kindName)

/-- The letters for reals. -/
def realLetters : List Char := "eEfFgG".toList

/-- The digits of a real that is not negative under a letter. -/
def realDigits (letter : Char) (alternate : Bool) (precision : Option Nat) (v : Rat) : String :=
  let places := precision.getD 6
  match letter.toLower with
  | 'f' => Decimal.fixed alternate places v
  | 'e' => Decimal.exponential alternate places v
  | _ => Decimal.general alternate (max places 1) v

/-- The number under a letter for reals. -/
def realUnder (letter : Char) (alternate : Bool) (precision : Option Nat) (value : Value) :
    Except Refusal Figure :=
  let figure (negative : Bool) (digits : String) : Figure :=
    { negative, mark := "", digits := inCaseOf letter digits }
  (reading value).map fun
    | .notANumber => figure false "nan"
    | .infinite negative => figure negative "inf"
    | .finite negative significand exponent =>
      figure negative
        (realDigits letter alternate precision (significand * (2 : Rat) ^ exponent))

end ModelGraph.Template
