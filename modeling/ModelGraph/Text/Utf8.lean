import ModelGraph.Text.Quoted
import ModelGraph.Walk

/-!
# Text from bytes

Bytes are a text when they are made of well-formed sequences of one to four bytes. A byte that
cannot stand where it stands is reported with the sequence it spoils. `decodeSome` leaves over a
sequence that is still open when the input ends; `decode` refuses it.
-/

namespace ModelGraph.Text.Utf8

/-- Why bytes are no text. -/
inductive Cause where
  /-- No sequence begins with this byte. -/
  | start
  /-- A sequence is not continued as it has to be. -/
  | continuation
  /-- The input ends within a sequence. -/
  | unfinished
  deriving DecidableEq, Repr

/-- The wording of a cause. -/
def Cause.message : Cause → String
  | .start => "invalid start byte"
  | .continuation => "invalid continuation byte"
  | .unfinished => "unexpected end of data"

/-- The bytes at a place that are no text. -/
structure Failure where
  cause : Cause
  position : Nat
  bytes : List UInt8
  deriving DecidableEq, Repr

/-- The wording of a failure. -/
def Failure.message (f : Failure) : String :=
  let place :=
    match f.bytes with
    | [b] => "byte 0x" ++ String.ofList (hexDigits 2 b.toNat) ++ " in position " ++
        toString f.position
    | bytes => "bytes in position " ++ toString f.position ++ "-" ++
        toString (f.position + bytes.length - 1)
  "'utf-8' codec can't decode " ++ place ++ ": " ++ f.cause.message

/-- The number of bytes that follow a first byte, if a sequence can begin with it. -/
def followers? (b : UInt8) : Option Nat :=
  if b < 0x80 then some 0
  else if b < 0xc2 then none
  else if b < 0xe0 then some 1
  else if b < 0xf0 then some 2
  else if b < 0xf5 then some 3
  else none

/-- Whether `b` may be the second byte of a sequence. Not every second byte is allowed after some
first bytes, which rules out overlong sequences, surrogates and codes beyond the last. -/
def isSecond (first b : UInt8) : Bool :=
  let low : UInt8 := if first = 0xe0 then 0xa0 else if first = 0xf0 then 0x90 else 0x80
  let high : UInt8 := if first = 0xed then 0x9f else if first = 0xf4 then 0x8f else 0xbf
  low ≤ b && b ≤ high

/-- How many bytes of a sequence fit after its first byte. -/
def fitting (first : UInt8) : List UInt8 → Nat
  | [] => 0
  | b :: rest =>
    if isSecond first b then
      1 + (rest.takeWhile fun b => 0x80 ≤ b && b ≤ 0xbf).length
    else 0

/-- The character of a sequence, from the bits that its bytes carry. -/
def character (first : UInt8) (rest : List UInt8) : Char :=
  let kept :=
    match rest.length with
    | 0 => first.toNat
    | 1 => first.toNat % 0x20
    | 2 => first.toNat % 0x10
    | _ => first.toNat % 0x08
  Char.ofNat (rest.foldl (fun code b => code * 0x40 + b.toNat % 0x40) kept)

/-- Whether some bytes are the beginning of a surrogate. They may not be continued in any way, but
that shows only when they are. -/
def isCutSurrogate (s : List UInt8) : Bool :=
  match s with
  | [first, b] => first == 0xed && 0xa0 ≤ b && b ≤ 0xbf
  | _ => false

/-- Reads one sequence. The state has the place in the input and the characters so far, the last
one first. -/
def step (state : Nat × List Char) (s : List UInt8) :
    Except Failure (Walk.Move (Nat × List Char) (List Char)) :=
  let (position, found) := state
  match s with
  | [] => .ok (.stop found.reverse 0)
  | first :: rest =>
    match followers? first with
    | none => .error ⟨.start, position, [first]⟩
    | some n =>
      let fit := fitting first (rest.take n)
      if fit = n then .ok (.go (position + n + 1, character first (rest.take n) :: found) (n + 1))
      else if fit = rest.length || isCutSurrogate s then .ok (.stop found.reverse 0)
      else .error ⟨.continuation, position, s.take (fit + 1)⟩

/-- The characters of bytes, and the bytes of a sequence that is still open at their end. -/
def decodeSome (bytes : List UInt8) : Except Failure (List Char × List UInt8) :=
  (Walk.run step (fun state => .ok state.2.reverse) 0 (0, []) bytes).map
    fun (letters, taken) => (letters, bytes.drop taken)

/-- Why a sequence that is open at a place cannot be the last one. -/
def openFailure (position : Nat) (bytes : List UInt8) : Failure :=
  if isCutSurrogate bytes then ⟨.continuation, position, bytes.take 1⟩
  else ⟨.unfinished, position, bytes⟩

/-- The characters of bytes. -/
def decode (bytes : List UInt8) : Except Failure (List Char) := do
  let (letters, rest) ← decodeSome bytes
  if rest.isEmpty then return letters
  throw (openFailure (bytes.length - rest.length) rest)

end ModelGraph.Text.Utf8
