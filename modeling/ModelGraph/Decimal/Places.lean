import ModelGraph.Decimal.Written

/-!
# Decimals with a given number of places

A number that is not negative is rounded to a grid of decimals, where a half goes to the even
neighbour, and written with all places of the grid: positionally, with a power of ten, or in the
shorter of the two ways without the zeros at the end.
-/

namespace ModelGraph.Decimal

/-- The nearest natural number to a number that is not negative. -/
def nearest (v : Rat) : Nat :=
  let below := v.floor.toNat
  let gap := v - below
  if gap < 1 / 2 ∨ (gap = 1 / 2 ∧ below % 2 = 0) then below else below + 1

/-- A whole part with `places` digits after the point. Without any, the point itself is left out
unless `keepPoint`. -/
def withFraction (keepPoint : Bool) (places : Nat) (whole fraction : Nat) : String :=
  if places = 0 then toString whole ++ (if keepPoint then "." else "")
  else toString whole ++ "." ++ padded places fraction

/-- A number with `places` digits after the point. -/
def fixed (keepPoint : Bool) (places : Nat) (v : Rat) : String :=
  let n := nearest (v * Nat.pow 10 places)
  withFraction keepPoint places (n / Nat.pow 10 places) (n % Nat.pow 10 places)

/-- A number rounded to `places + 1` digits, with the power of ten of the first one. -/
def leadingDigits (places : Nat) (v : Rat) : Nat × Int :=
  if v = 0 then (0, 0)
  else
    let power := leadingPower v
    let n := nearest (v / (10 : Rat) ^ (power - places))
    if n = Nat.pow 10 (places + 1) then (Nat.pow 10 places, power + 1) else (n, power)

/-- The digits of a number in scientific writing, before its power of ten. -/
def mantissa (keepPoint : Bool) (places : Nat) (v : Rat) : String :=
  let n := (leadingDigits places v).1
  withFraction keepPoint places (n / Nat.pow 10 places) (n % Nat.pow 10 places)

/-- The power of ten of a number in scientific writing. -/
def powerMark (places : Nat) (v : Rat) : String :=
  let power := (leadingDigits places v).2
  (if power < 0 then "e-" else "e+") ++ padded 2 power.natAbs

/-- A number in scientific writing with `places` digits after the point. -/
def exponential (keepPoint : Bool) (places : Nat) (v : Rat) : String :=
  mantissa keepPoint places v ++ powerMark places v

/-- A text with a point in it without the zeros at its end, and without the point if that comes
last then. -/
def dropZeros (s : String) : String :=
  if s.toList.contains '.' then
    let digits := (s.toList.reverse.dropWhile (· == '0'))
    String.ofList (digits.dropWhile (· == '.')).reverse
  else s

/-- A number with `digits` digits: positionally while its first digit stands at most four places
behind the point and the last one not before it. With `keepZeros` the zeros at the end stay. -/
def general (keepZeros : Bool) (digits : Nat) (v : Rat) : String :=
  let places := digits - 1
  let power := (leadingDigits places v).2
  let finish (s : String) : String := if keepZeros then s else dropZeros s
  if -4 ≤ power ∧ power < places + 1 then finish (fixed keepZeros (places - power).toNat v)
  else finish (mantissa keepZeros places v) ++ powerMark places v

end ModelGraph.Decimal
