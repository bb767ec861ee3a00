/-!
# What a 64-bit float stands for

A finite float is a significand times a power of two. `whole?` says which integer a float is
equal to, if any.
-/

namespace ModelGraph.Decimal

/-- The meaning of a 64-bit float. -/
inductive Reading where
  /-- The number `significand * 2 ^ exponent`, with a sign of its own so that zero keeps it. -/
  | finite (negative : Bool) (significand : Nat) (exponent : Int)
  | infinite (negative : Bool)
  | notANumber

/-- Reads the sign, the exponent and the fraction off the bits of a float. -/
def read (x : Float) : Reading :=
  let bits := x.toBits.toNat
  let negative : Bool := Nat.pow 2 63 ≤ bits
  let exponent : Nat := bits / Nat.pow 2 52 % Nat.pow 2 11
  let fraction : Nat := bits % Nat.pow 2 52
  if exponent = 2047 then
    if fraction = 0 then .infinite negative else .notANumber
  else if exponent = 0 then
    .finite negative fraction (-1074)
  else
    .finite negative (fraction + Nat.pow 2 52) (exponent - 1075)

/-- The rational number a reading stands for. -/
def Reading.value? : Reading → Option Rat
  | .finite negative significand exponent =>
    let size : Rat := significand * (2 : Rat) ^ exponent
    some (if negative then -size else size)
  | .infinite _ => none
  | .notANumber => none

/-- The integer that a float is equal to, if it is equal to one. -/
def whole? (x : Float) : Option Int :=
  (read x).value?.bind fun v => if v.den = 1 then some v.num else none

end ModelGraph.Decimal
