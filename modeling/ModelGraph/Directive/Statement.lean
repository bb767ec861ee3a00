import ModelGraph.Directive.Marker

/-!
# Statements of a payload

A payload lists statements in double quotes, separated by commas. A comma separates only when a
double quote follows it, with blanks between them or not; so a statement may have commas of its
own. Elements without a quoted statement are dropped.
-/

namespace ModelGraph.Marker

/-- The double quote that encloses a statement. -/
def quoteMark : Char := '\x22'

/-- Whether a comma that is followed by `rest` separates two elements. -/
def separates (rest : List Char) : Bool :=
  (rest.dropWhile Text.isBlank).head? == some quoteMark

/-- The elements of a payload. Right after a separating comma (`skipping`) blanks are passed
over. -/
def elements (skipping : Bool) : List Char → List (List Char)
  | [] => [[]]
  | c :: r =>
    if skipping && Text.isBlank c then elements true r
    else if c = ',' && separates r then [] :: elements true r
    else
      match elements false r with
      | [] => [[c]]
      | first :: more => (c :: first) :: more

/-- The longest nonempty beginning of `s` that is followed by a double quote. -/
def beforeLastQuote? (s : List Char) : Option (List Char) :=
  match s.reverse.dropWhile (· != quoteMark) with
  | _ :: c :: r => some (c :: r).reverse
  | _ => none

/-- The first quoted text of an element that is not empty: from a double quote to the last one
that can be reached through payload characters. -/
def quoted? : List Char → Option (List Char)
  | [] => none
  | c :: r =>
    if c = quoteMark then
      match beforeLastQuote? (r.takeWhile isPayload) with
      | some inner => some inner
      | none => quoted? r
    else
      quoted? r

/-- A statement with single quotes in place of double ones. -/
def singleQuoted (s : List Char) : List Char :=
  s.map fun c => if c = quoteMark then '\x27' else c

/-- The statement of an element, if it has one. -/
def statement? (element : List Char) : Option (List Char) :=
  (quoted? (Text.trim element)).map singleQuoted

/-- The statements of a payload. -/
def statements (payload : List Char) : List (List Char) :=
  (elements false payload).filterMap statement?

end ModelGraph.Marker
