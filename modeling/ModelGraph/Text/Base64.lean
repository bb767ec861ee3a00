/-!
# Base 64

Bytes written by characters of six bits each, four characters for three bytes. Characters that
are no digits go for nothing. A group of two or three digits has to be filled up with padding,
and what follows the padding of a group goes for nothing too.
-/

namespace ModelGraph.Text.Base64

/-- The value of a digit. -/
def value? (c : Char) : Option Nat :=
  if 'A' ≤ c ∧ c ≤ 'Z' then some (c.toNat - 'A'.toNat)
  else if 'a' ≤ c ∧ c ≤ 'z' then some (c.toNat - 'a'.toNat + 26)
  else if '0' ≤ c ∧ c ≤ '9' then some (c.toNat - '0'.toNat + 52)
  else if c = '+' then some 62
  else if c = '/' then some 63
  else none

/-- The bytes so far, the last one first, and the group that is not complete: the number of its
digits, the bits that are in no byte yet, and the padding after it. -/
structure State where
  found : List UInt8
  digits : Nat
  bits : Nat
  padding : Nat

/-- The state after a digit. -/
def State.add (s : State) (digit : Nat) : State :=
  let bits := 64 * s.bits + digit
  let size := 2 * (3 - s.digits)
  if s.digits = 0 then { s with digits := 1, bits, padding := 0 }
  else
    { found := UInt8.ofNat (bits / Nat.pow 2 size) :: s.found
      digits := (s.digits + 1) % 4
      bits := bits % Nat.pow 2 size
      padding := 0 }

/-- Reads on from a state. -/
def decodeFrom (state : State) : List Char → Option (List UInt8)
  | [] => if state.digits = 0 then some state.found.reverse else none
  | '=' :: rest =>
    if state.digits < 2 then decodeFrom state rest
    else if 4 ≤ state.digits + state.padding + 1 then some state.found.reverse
    else decodeFrom { state with padding := state.padding + 1 } rest
  | c :: rest =>
    match value? c with
    | some digit => decodeFrom (state.add digit) rest
    | none => decodeFrom state rest

/-- The bytes that a text stands for. -/
def decode (s : List Char) : Option (List UInt8) :=
  decodeFrom ⟨[], 0, 0, 0⟩ s

end ModelGraph.Text.Base64
