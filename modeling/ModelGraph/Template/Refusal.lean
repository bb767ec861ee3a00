import ModelGraph.Text.Quoted

/-!
# Refused templates

Why values cannot be put into a template. The kinds are those of `Value.kindName`.
-/

namespace ModelGraph.Template

/-- Why values cannot be put into a template. -/
inductive Refusal where
  /-- There are more conversions than values. -/
  | tooFewValues
  /-- There are more values than conversions. -/
  | tooManyValues
  /-- The value under a letter for numbers is none. -/
  | notNumber (letter : Char) (kind : String)
  /-- The value under a letter for integers is none. -/
  | notInteger (letter : Char) (kind : String)
  /-- The value under a letter for reals is no number. -/
  | notReal (kind : String)
  /-- The value under the letter for characters is neither a character nor an integer. -/
  | notCharacter
  /-- There is no character of this code. -/
  | noSuchCharacter
  /-- A width or precision is no integer. -/
  | sizeNotInteger
  /-- A width in the template is too large. -/
  | wideLiteral
  /-- A precision in the template is too large. -/
  | preciseLiteral
  /-- A width among the values is too large or too small. -/
  | wideValue
  /-- A precision among the values is too large or too small. -/
  | preciseValue
  /-- A precision is too large for an integer. -/
  | preciseInteger
  /-- An integer is too large to be a real. -/
  | largeReal
  | infiniteInteger
  | undefinedInteger
  /-- A place has no room in any memory. -/
  | noRoom
  /-- A conversion names its value, but the values have no names. -/
  | unnamedValues
  | unknownName (name : String)
  /-- The template ends inside a conversion. -/
  | unfinished
  /-- The template ends inside a name. -/
  | unfinishedName
  | unknownLetter (letter : Char) (index : Nat)
  deriving DecidableEq, Repr

/-- A letter as it is shown: a question mark when it is not plain ASCII. -/
def shownLetter (c : Char) : Char :=
  if 31 ≤ c.toNat ∧ c.toNat < 126 then c else '?'

/-- The wording of a refusal. -/
def Refusal.message : Refusal → String
  | .tooFewValues => "not enough arguments for format string"
  | .tooManyValues => "not all arguments converted during string formatting"
  | .notNumber letter kind =>
    "%" ++ String.singleton letter ++ " format: a real number is required, not " ++ kind
  | .notInteger letter kind =>
    "%" ++ String.singleton letter ++ " format: an integer is required, not " ++ kind
  | .notReal kind => "must be real number, not " ++ kind
  | .notCharacter => "%c requires int or char"
  | .noSuchCharacter => "%c arg not in range(0x110000)"
  | .sizeNotInteger => "* wants int"
  | .wideLiteral => "width too big"
  | .preciseLiteral => "precision too big"
  | .wideValue => "Python int too large to convert to C ssize_t"
  | .preciseValue => "Python int too large to convert to C int"
  | .preciseInteger => "precision too large"
  | .largeReal => "int too large to convert to float"
  | .infiniteInteger => "cannot convert float infinity to integer"
  | .undefinedInteger => "cannot convert float NaN to integer"
  | .noRoom => ""
  | .unnamedValues => "format requires a mapping"
  | .unknownName name => Text.quote name
  | .unfinished => "incomplete format"
  | .unfinishedName => "incomplete format key"
  | .unknownLetter letter index =>
    "unsupported format character '" ++ String.singleton (shownLetter letter) ++ "' (0x" ++
      String.ofList (Text.hexDigits 1 letter.toNat) ++ ") at index " ++ toString index

end ModelGraph.Template
