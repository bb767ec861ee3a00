import ModelGraph.Decimal.Shortest

/-!
# How a float is written

A float is written with its shortest digits, positionally while its decimal point stands near the
digits and with a power of ten otherwise. The bounds are those of a `Layout`.
-/

namespace ModelGraph.Decimal

/-- Where positional writing ends: it is used while the decimal point stands after more than
`leastPoint` and at most `mostPoint` digits. -/
structure Layout where
  leastPoint : Int
  mostPoint : Int
  exponentWidth : Nat

/-- Decimal digits, padded with zeros on the left to `width`. -/
def padded (width n : Nat) : String :=
  let digits := Nat.toDigits 10 n
  String.ofList (List.replicate (width - digits.length) '0' ++ digits)

/-- Digits with a decimal point after the first `point` of them and a digit on both sides. -/
def positional (digits : List Char) (point : Int) : String :=
  let count : Int := digits.length
  if point ≤ 0 then
    "0." ++ String.ofList (List.replicate (-point).toNat '0' ++ digits)
  else if count ≤ point then
    String.ofList (digits ++ List.replicate (point - count).toNat '0') ++ ".0"
  else
    String.ofList (digits.take point.toNat) ++ "." ++ String.ofList (digits.drop point.toNat)

/-- Digits with a decimal point after the first one, times a power of ten. -/
def scientific (width : Nat) (digits : List Char) (power : Int) : String :=
  let tail := digits.drop 1
  String.ofList (digits.take 1) ++ (if tail.isEmpty then "" else "." ++ String.ofList tail) ++
    (if power < 0 then "e-" else "e+") ++ padded width power.natAbs

/-- A positive decimal in the given layout. -/
def Digits.write (layout : Layout) (d : Digits) : String :=
  let digits := Nat.toDigits 10 d.coefficient
  let point : Int := digits.length + d.power
  if layout.leastPoint < point ∧ point ≤ layout.mostPoint then positional digits point
  else scientific layout.exponentWidth digits (point - 1)

/-- A float in the given layout. -/
def write (layout : Layout) (x : Float) : String :=
  let sign (negative : Bool) := if negative then "-" else ""
  match read x with
  | .notANumber => "nan"
  | .infinite negative => sign negative ++ "inf"
  | .finite negative 0 _ => sign negative ++ "0.0"
  | .finite negative significand exponent =>
    sign negative ++ (shortest significand exponent).write layout

end ModelGraph.Decimal
