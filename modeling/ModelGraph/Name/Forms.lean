import ModelGraph.Fault
import ModelGraph.Name.Case
import ModelGraph.Noun.Plural
import ModelGraph.Value

/-!
# Forms of a name

The spellings of one base name that generated code needs. Only the last word of a name is put into
the plural. The last word is the longest ending of the form: a capital or nothing, then small
letters and digits. The inflection of a word is a parameter of `pluralLettersWith`, so that what is
said of names holds for every inflection.
-/

namespace ModelGraph.Name

/-! ## The plural -/

/-- Whether the letters can be a last word: at most one capital, in front, then small letters and
digits. -/
def isLastWord : List Char → Bool
  | [] => true
  | c :: r => (c.isUpper || isSmall c) && r.all isSmall

/-- The text before the last word of `s`, and the last word. -/
def splitLastWord : List Char → List Char × List Char
  | [] => ([], [])
  | c :: r =>
    if isLastWord (c :: r) then ([], c :: r)
    else
      let (head, last) := splitLastWord r
      (c :: head, last)

/-- The text without a line break at its very end. -/
def dropFinalBreak (s : List Char) : List Char :=
  if s.getLast? = some '\n' then s.dropLast else s

/-- The plural of a word under an inflection; an "s" is added when the inflection gives none. -/
def inflectWith (noun : List Char → List Char) (last : List Char) : List Char :=
  if noun last = [] then last ++ ['s'] else noun last

/-- The plural of the letters of a name. A line break at the end is not part of the last word, and
goes with it; one before the last character is a fault. -/
def pluralLettersWith (noun : List Char → List Char) (s : List Char) :
    Except Fault (List Char) :=
  if s = [] then .ok []
  else if '\n' ∈ dropFinalBreak s then .error .lineBreakInName
  else
    match splitLastWord (dropFinalBreak s) with
    | (_, []) => .ok (s ++ ['s'])
    | (head, last) => .ok (head ++ inflectWith noun last)

/-- The plural of a name under an inflection. -/
def pluralWith (noun : List Char → List Char) (name : String) : Except Fault String :=
  (pluralLettersWith noun name.toList).map String.ofList

/-- The plural of a name. -/
def plural (name : String) : Except Fault String :=
  pluralWith Noun.plural name

/-! ## All forms -/

/-- A base name with its spellings. -/
structure Forms where
  base : String
  camel : String
  pascal : String
  snake : String
  spaced : String
  plural : String
  deriving DecidableEq, Repr

/-- The forms of a name under an inflection. The plural is that of the camel case. -/
def formsWith (noun : List Char → List Char) (name : String) : Except Fault Forms :=
  (pluralWith noun (camel name)).map fun plural =>
    { base := name
      camel := camel name
      pascal := pascal name
      snake := snake name
      spaced := spaced name
      plural }

/-- The forms of a name. -/
def forms (name : String) : Except Fault Forms :=
  formsWith Noun.plural name

/-!
## Names given as values

A value read from a document names something only when it is a text. What a value of another kind
gives depends on what was asked of it.
-/

/-- What `f` gives for a value that is a text. -/
def ofText (f : String → α) : Value → Except Fault α
  | .scalar (.text s) => .ok (f s)
  | value => .error (.nameNotText value.kindName)

/-- The plural of a value. Values that count as false have the empty plural. -/
def pluralOf : Value → Except Fault String
  | .scalar (.text s) => plural s
  | value => if value.truthy then .error (.pluralOfNonText value.kindName) else .ok ""

/-- The forms of a value. They are looked up, which a list or an object cannot be. -/
def formsOf : Value → Except Fault Forms
  | .scalar (.text s) => forms s
  | .scalar a => .error (.nameNotText (Value.scalar a).kindName)
  | value => .error (.notHashable value.kindName)

end ModelGraph.Name
