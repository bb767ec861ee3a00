import ModelGraph.Decimal.Binary64

/-!
# The shortest decimal of a float

Of the decimals that round to a float, `shortest` is one with the fewest digits, and of those the
nearest to the float. On the grid of each number of digits only the two neighbours of the float
need to be tried, because the reals that round to the float form an interval around it.

The other way round, `Digits.toFloat` is the float nearest to a decimal. Decimals far beyond the
range of floats are told by the place of their first digit, so that their powers of ten are never
computed.
-/

namespace ModelGraph.Decimal

/-- The number `coefficient * 10 ^ power`. -/
structure Digits where
  coefficient : Nat
  power : Int

/-- An interval of numbers, with or without its two ends. -/
structure Interval where
  low : Rat
  high : Rat
  closed : Bool

/-- Whether a number lies in an interval. -/
def Interval.contains (i : Interval) (v : Rat) : Bool :=
  if i.closed then i.low ≤ v && v ≤ i.high else i.low < v && v < i.high

/-- The numbers that round to the positive float `significand * 2 ^ exponent`. The lower half is
shorter below a power of two, and the ends round to an even significand. -/
def roundingTo (significand : Nat) (exponent : Int) : Interval :=
  let unit : Rat := (2 : Rat) ^ exponent
  let value : Rat := significand * unit
  let below := if significand = Nat.pow 2 52 ∧ -1074 < exponent then unit / 4 else unit / 2
  ⟨value - below, value + unit / 2, significand % 2 = 0⟩

/-- The number of decimal digits of `n`. -/
def digitCount (n : Nat) : Nat :=
  (Nat.toDigits 10 n).length

/-- The power of ten of the first digit of a positive number. -/
def leadingPower (v : Rat) : Int :=
  let guess : Int := digitCount v.num.toNat - digitCount v.den
  if (10 : Rat) ^ guess ≤ v then guess else guess - 1

/-- The nearer of the two neighbours of `v` among the multiples of `10 ^ power` that lie in the
interval, a tie going to the even one. -/
def onGrid? (i : Interval) (v : Rat) (power : Int) : Option Digits :=
  let unit : Rat := (10 : Rat) ^ power
  let below := (v / unit).floor.toNat
  let gap := v / unit - below
  let belowIn := i.contains (below * unit)
  let aboveIn := i.contains ((below + 1) * unit)
  let belowNearer := gap < 1 / 2 || (gap == 1 / 2 && below % 2 == 0)
  if belowIn && (belowNearer || !aboveIn) then some ⟨below, power⟩
  else if aboveIn then some ⟨below + 1, power⟩
  else none

/-- The same number with at most `fuel` zeros taken off the end of its coefficient. -/
def Digits.stripZeros : Nat → Digits → Digits
  | 0, d => d
  | fuel + 1, d =>
    if d.coefficient ≠ 0 ∧ d.coefficient % 10 = 0 then
      stripZeros fuel ⟨d.coefficient / 10, d.power + 1⟩
    else
      d

/-- The shortest decimal of the positive float `significand * 2 ^ exponent`; seventeen digits
always suffice. -/
def shortest (significand : Nat) (exponent : Int) : Digits :=
  let value : Rat := significand * (2 : Rat) ^ exponent
  let range := roundingTo significand exponent
  let first := leadingPower value
  let found := (List.range 17).findSome? fun more : Nat => onGrid? range value (first - more)
  (found.getD ⟨significand, 0⟩).stripZeros 20

/-! ## The float of a decimal -/

/-- The infinite float. -/
def infinity : Float := 1 / 0

/-- The float nearest to a decimal. -/
def Digits.toFloat (d : Digits) : Float :=
  let first := digitCount d.coefficient + d.power
  if d.coefficient = 0 ∨ first < -400 then 0
  else if first > 400 then infinity
  else Float.ofScientific d.coefficient (d.power < 0) d.power.natAbs

end ModelGraph.Decimal
