import ModelGraph.Text.Case

/-!
# Cases of a name

A name is written in camel, Pascal or snake case, or as spaced capitals. Snake case is made by
three passes over the letters: `markWords` puts an underscore before each capitalized word,
`mergeMarks` removes the second of two underscores before a capital, and `markCapitals` puts an
underscore before each remaining capital that follows a small letter or a digit.
-/

namespace ModelGraph.Name

/-- Whether `c` is a small ASCII letter or a digit. -/
def isSmall (c : Char) : Bool :=
  c.isLower || c.isDigit

/-- Puts an underscore before each capital that is followed by a small letter and preceded by a
character other than a line break. The small letters after such a capital belong to its word
(`inWord`), and the last of them marks no further word. -/
def markWords (inWord : Bool) : List Char → List Char
  | c :: u :: l :: r =>
    if inWord && c.isLower then c :: markWords true (u :: l :: r)
    else if c != '\n' && u.isUpper && l.isLower then c :: '_' :: u :: markWords true (l :: r)
    else c :: markWords false (u :: l :: r)
  | s => s

/-- Drops one of two underscores before a capital. -/
def mergeMarks : List Char → List Char
  | [] => []
  | '_' :: '_' :: u :: r =>
    if u.isUpper then '_' :: u :: mergeMarks r else '_' :: mergeMarks ('_' :: u :: r)
  | c :: r => c :: mergeMarks r

/-- Puts an underscore between a small letter or digit and a capital. -/
def markCapitals : List Char → List Char
  | a :: u :: r =>
    if isSmall a && u.isUpper then a :: '_' :: u :: markCapitals r
    else a :: markCapitals (u :: r)
  | s => s

/-- The letters of a name in snake case. -/
def snakeLetters (s : List Char) : List Char :=
  Text.lower (markCapitals (mergeMarks (markWords false s)))

/-- The letters of a name without its underscores, where the character after an underscore, and
the first one when `atStart`, is in upper case. -/
def joinCapitalized (atStart : Bool) : List Char → List Char
  | [] => []
  | c :: r =>
    if c = '_' then joinCapitalized true r
    else (if atStart then Text.upperChar c else [c]) ++ joinCapitalized false r

/-- The letters of a name in Pascal case. -/
def pascalLetters (s : List Char) : List Char :=
  joinCapitalized true s

/-- The letters of a name in camel case. -/
def camelLetters (s : List Char) : List Char :=
  Text.lowerFirst (pascalLetters s)

/-- The letters of a name as capitals, its words separated by spaces. -/
def spacedLetters (s : List Char) : List Char :=
  Text.upper ((snakeLetters s).map fun c => if c = '_' then ' ' else c)

/-- A name in snake case. -/
def snake (name : String) : String :=
  String.ofList (snakeLetters name.toList)

/-- A name in Pascal case. -/
def pascal (name : String) : String :=
  String.ofList (pascalLetters name.toList)

/-- A name in camel case. -/
def camel (name : String) : String :=
  String.ofList (camelLetters name.toList)

/-- A name as spaced capitals. -/
def spaced (name : String) : String :=
  String.ofList (spacedLetters name.toList)

end ModelGraph.Name
