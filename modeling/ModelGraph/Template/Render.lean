import ModelGraph.Template.Number

/-!
# Values in a template

The pieces of a template are gone through from left to right. Values come in turn or by name; when
they come in turn, all of them have to be used.
-/

namespace ModelGraph.Template

/-- The values for a template. -/
inductive Values where
  | inTurn (values : List Value)
  | byName (entries : Entries)

/-- What is left of the values. A named value is the one and only value in turn until it is
used. -/
structure Supply where
  pending : List Value
  names : Option Entries

/-- The supply before the first piece. Values by name are themselves a value in turn. -/
def Values.supply : Values → Supply
  | .inTurn values => ⟨values, none⟩
  | .byName entries => ⟨[.object entries], some entries⟩

/-- A step that uses the supply and may be refused. -/
abbrev Step := StateT Supply (Except Refusal)

/-- Takes the next value. -/
def take : Step Value := do
  let supply ← get
  match supply.pending with
  | [] => throw .tooFewValues
  | value :: rest =>
    set { supply with pending := rest }
    return value

/-- Makes the selected value the next one. -/
def select : Selector → Step Unit
  | .next => return
  | .unclosed => do
    let supply ← get
    throw (if supply.names.isSome then .unfinishedName else .unnamedValues)
  | .named name => do
    let supply ← get
    match supply.names with
    | none => throw .unnamedValues
    | some entries =>
      match Entries.get? (.text name) entries with
      | none => throw (.unknownName name)
      | some value => set { supply with pending := [value] }

/-- The range of a size, and what it is refused for beyond it. -/
structure SizeRange where
  bits : Nat
  literal : Refusal
  value : Refusal

/-- A width has 64 bits. -/
def widthRange : SizeRange := ⟨64, .wideLiteral, .wideValue⟩

/-- A precision has 32 bits. -/
def precisionRange : SizeRange := ⟨32, .preciseLiteral, .preciseValue⟩

/-- The number that a size stands for. -/
def sizeOf (range : SizeRange) : Size → Step (Option Int)
  | .absent => return none
  | .fixed n => if n < Nat.pow 2 (range.bits - 1) then return some n else throw range.literal
  | .fromValue => do
    match integer? (← take) with
    | some n =>
      if -Nat.pow 2 (range.bits - 1) ≤ n ∧ n < Nat.pow 2 (range.bits - 1) then return some n
      else throw range.value
    | none => throw .sizeNotInteger

/-- The number of characters that no place can have. -/
def roomLimit : Nat := Nat.pow 2 33

/-- The number of characters of a place; a width that has no opposite counts as none. -/
def placeSize (width : Option Int) : Nat :=
  match width with
  | none => 0
  | some n => if n = -Nat.pow 2 63 then 0 else n.natAbs

/-- A run of one character. -/
def run (n : Nat) (c : Char) : String :=
  String.ofList (List.replicate n c)

/-- A text in a place of the given width. -/
def place (leftAligned : Bool) (width : Nat) (s : String) : String :=
  let gap := run (width - s.length) ' '
  if leftAligned then s ++ gap else gap ++ s

/-- The sign of a number. -/
def signOf (flags : Flags) (negative : Bool) : String :=
  if negative then "-" else if flags.signed then "+" else if flags.spaced then " " else ""

/-- A number in a place of the given width. Zeros go between its sign and its digits. -/
def placeFigure (flags : Flags) (leftAligned : Bool) (width : Nat) (figure : Figure) : String :=
  let start := signOf flags figure.negative ++ figure.mark
  if flags.zeroFilled && !leftAligned then
    start ++ run (width - (start.length + figure.digits.length)) '0' ++ figure.digits
  else
    place leftAligned width (start ++ figure.digits)

/-- A text in which every character beyond ASCII is escaped. -/
def asciiOnly (s : String) : String :=
  String.ofList (s.toList.flatMap fun c => if c.toNat < 128 then [c] else Text.escapeCode c)

/-- A value under a letter for texts. -/
def textUnder (letter : Char) (value : Value) : String :=
  if letter = 's' then value.display
  else if letter = 'r' then value.shown
  else asciiOnly value.shown

/-- The character that a value stands for. -/
def characterOf (value : Value) : Except Refusal Char :=
  match value, integer? value with
  | .scalar (.text s), _ =>
    match s.toList with
    | [c] => .ok c
    | _ => .error .notCharacter
  | _, some n =>
    if 0 ≤ n ∧ n < 0x110000 then .ok (Char.ofNat n.toNat) else .error .noSuchCharacter
  | _, none => .error .notCharacter

/-- A value under a letter in its place. -/
def written (flags : Flags) (leftAligned : Bool) (width : Nat) (precision : Option Nat)
    (letter : Char) (index : Nat) (value : Value) : Except Refusal String :=
  if letter = 's' ∨ letter = 'r' ∨ letter = 'a' then
    let s := textUnder letter value
    .ok (place leftAligned width (String.ofList (s.toList.take (precision.getD s.length))))
  else if letter = 'c' then
    (characterOf value).map fun c => place leftAligned width (String.singleton c)
  else if realLetters.contains letter then
    (realUnder letter flags.alternate precision value).map (placeFigure flags leftAligned width)
  else
    match baseOf? letter with
    | some base =>
      (integerUnder letter base flags.alternate precision value).map
        (placeFigure flags leftAligned width)
    | none => .error (.unknownLetter letter index)

/-- The text of a conversion. A negative width aligns to the left, and a negative precision is
none at all. -/
def conversionText (c : Conversion) : Step String := do
  select c.selector
  let width ← sizeOf widthRange c.width
  let precision ← sizeOf precisionRange c.precision
  match c.letter with
  | none => throw .unfinished
  | some letter =>
    let value ← take
    let leftAligned := c.flags.leftAligned || width.any (· < 0)
    let precision := precision.map Int.toNat
    let fits := placeSize width < roomLimit
    let size := if fits then placeSize width else 0
    let s ← written c.flags leftAligned size precision letter c.index value
    if fits then return s else throw .noRoom

/-- The text of a piece. -/
def pieceText : Piece → Step String
  | .char c => return String.singleton c
  | .conversion c => conversionText c

/-- The texts of the pieces, one after the other. -/
def piecesText : List Piece → Step String
  | [] => return ""
  | piece :: rest => do
    let first ← pieceText piece
    return first ++ (← piecesText rest)

/-- The template with the values put into it. -/
def render (values : Values) (template : String) : Except Refusal String := do
  let (s, supply) ← (piecesText (pieces template)).run values.supply
  if supply.names.isNone && !supply.pending.isEmpty then throw .tooManyValues
  return s

end ModelGraph.Template
