import ModelGraph.Text.Numeral

/-!
# Templates

A template is a text with conversions in it, each of which is replaced by a value. A conversion
begins with a percent sign and may name its value, set flags, a width and a precision, and ends
with a letter that says how the value is written; two percent signs stand for one. `pieces` reads
a template without ever failing: what is missing in a conversion shows as an absent letter or an
unclosed name.
-/

namespace ModelGraph.Template

/-- Where a conversion takes its value from. -/
inductive Selector where
  /-- The next value in turn. -/
  | next
  | named (name : String)
  /-- A name without its closing bracket. -/
  | unclosed
  deriving DecidableEq, Repr

/-- A width or a precision. -/
inductive Size where
  | absent
  | fixed (n : Nat)
  /-- The next value in turn. -/
  | fromValue
  deriving DecidableEq, Repr

/-- How a value is fitted into its place. -/
structure Flags where
  leftAligned : Bool
  /-- A plus sign before numbers that are not negative. -/
  signed : Bool
  /-- A blank before numbers that are not negative. -/
  spaced : Bool
  /-- The mark of the base, or the point of a decimal without places. -/
  alternate : Bool
  /-- Zeros rather than blanks before a number. -/
  zeroFilled : Bool
  deriving DecidableEq, Repr

/-- A conversion. The index is the place of its letter in the template. -/
structure Conversion where
  selector : Selector
  flags : Flags
  width : Size
  precision : Size
  letter : Option Char
  index : Nat
  deriving DecidableEq, Repr

/-- A piece of a template. -/
inductive Piece where
  | char (c : Char)
  | conversion (conversion : Conversion)
  deriving DecidableEq, Repr

/-- The characters of flags. -/
def flagChars : List Char := "#0+ -".toList

/-- The flags that some characters set. -/
def flagsOf (cs : List Char) : Flags :=
  { leftAligned := cs.contains '-'
    signed := cs.contains '+'
    spaced := cs.contains ' '
    alternate := cs.contains '#'
    zeroFilled := cs.contains '0' }

/-- The name up to the bracket that closes it, and the text after that. Brackets inside the name
come in pairs, `depth` of which are open. -/
def readName (depth : Nat) : List Char → Option (List Char × List Char)
  | [] => none
  | c :: r =>
    if c = ')' then
      match depth with
      | 0 => some ([], r)
      | depth + 1 => (readName depth r).map fun (name, rest) => (c :: name, rest)
    else
      (readName (if c = '(' then depth + 1 else depth) r).map fun (name, rest) =>
        (c :: name, rest)

/-- Reads where the value comes from. -/
def readSelector : List Char → Selector × List Char
  | '(' :: r =>
    match readName 0 r with
    | some (name, rest) => (.named (String.ofList name), rest)
    | none => (.unclosed, [])
  | s => (.next, s)

/-- Reads a size. -/
def readSize : List Char → Size × List Char
  | '*' :: r => (.fromValue, r)
  | s =>
    match Text.spanDigits 10 s with
    | ([], _) => (.absent, s)
    | (digits, rest) => (.fixed (Text.numeral 10 digits), rest)

/-- Reads a precision, which follows a point; a point alone means zero. -/
def readPrecision : List Char → Size × List Char
  | '.' :: r =>
    match readSize r with
    | (.absent, rest) => (.fixed 0, rest)
    | found => found
  | s => (.absent, s)

/-- The text without a letter that tells the length of a number, which means nothing. -/
def dropLength : List Char → List Char
  | c :: r => if c = 'h' ∨ c = 'l' ∨ c = 'L' then r else c :: r
  | [] => []

/-- Reads a conversion after its percent sign; the template has `total` characters. The second
part is the text after the conversion. -/
def readConversion (total : Nat) (s : List Char) : Conversion × List Char :=
  let (selector, s) := readSelector s
  let flags := flagsOf (s.takeWhile flagChars.contains)
  let (width, s) := readSize (s.dropWhile flagChars.contains)
  let (precision, s) := readPrecision s
  let s := dropLength s
  ({ selector, flags, width, precision, letter := s.head?, index := total - s.length },
    s.drop 1)

/-- The pieces of a template of `total` characters, the first `skipped` of the given ones being
part of a conversion that is read already. -/
def readPieces (total skipped : Nat) : List Char → List Piece
  | [] => []
  | c :: r =>
    match skipped with
    | skipped + 1 => readPieces total skipped r
    | 0 =>
      if c ≠ '%' then .char c :: readPieces total 0 r
      else if r.head? = some '%' then .char '%' :: readPieces total 1 r
      else
        let (conversion, rest) := readConversion total r
        .conversion conversion :: readPieces total (r.length - rest.length) r

/-- The pieces of a template. -/
def pieces (template : String) : List Piece :=
  readPieces template.toList.length 0 template.toList

end ModelGraph.Template
