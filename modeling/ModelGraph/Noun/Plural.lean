import ModelGraph.Noun.Table

/-!
# Plural of a noun

`plural` forms the plural of one English noun, written in ASCII letters and digits. The rules are
a list; the first that knows the noun decides, and every noun takes an "s" when no other rule
does. The letter case of the noun is then restored.
-/

namespace ModelGraph

/-- A noun as it is written, with its lower case. -/
structure Noun where
  written : List Char
  lower : List Char

namespace Noun

/-- The noun with the given letters. -/
def ofLetters (w : List Char) : Noun :=
  ⟨w, w.map Char.toLower⟩

/-- What becomes of a noun in the plural. -/
inductive Inflection where
  /-- The noun loses its last letters, at most `drop` of them, and gains an ending. -/
  | ending (drop : Nat) (add : String)
  /-- The noun is replaced. -/
  | replaced (plural : String)

/-- The plural that an inflection gives a noun. -/
def Inflection.apply (n : Noun) : Inflection → List Char
  | .ending drop add => n.written.take (n.written.length - drop) ++ add.toList
  | .replaced plural => plural.toList

/-- Whether the lower case of the noun is one of `nouns`. -/
def isOne (n : Noun) (nouns : List String) : Bool :=
  nouns.any fun noun => noun.toList == n.lower

/-- Whether the lower case of the noun ends with one of `endings`. -/
def ends (n : Noun) (endings : List String) : Bool :=
  endings.any fun ending => ending.toList.isSuffixOf n.lower

/-- Whether the noun as written ends with one of `endings`. -/
def endsWritten (n : Noun) (endings : List String) : Bool :=
  endings.any fun ending => ending.toList.isSuffixOf n.written

/-- Whether the noun as written does not begin with a small letter. -/
def startsUnlettered (n : Noun) : Bool :=
  !(n.written.head?.any Char.isLower)

/-- Whether the last letter but one is a vowel. -/
def vowelBeforeLast (n : Noun) : Bool :=
  (n.lower.reverse.drop 1).head?.any fun c => "aeiou".toList.contains c

/-- A rule knows the inflection of some nouns. -/
abbrev Rule := Noun → Option Inflection

/-- The rule that drops `drop` letters and adds `add` when `test` holds. -/
def onlyIf (test : Noun → Bool) (drop : Nat) (add : String) : Rule :=
  fun n => if test n then some (.ending drop add) else none

/-- The rule for the nouns with one of `endings`. -/
def onEnding (endings : List String) (drop : Nat) (add : String) : Rule :=
  onlyIf (·.ends endings) drop add

/-- The rule of a table of nouns and their plurals. -/
def fromTable (key : Noun → List Char) (table : List (String × String)) : Rule :=
  fun n => (table.find? fun row => row.1.toList == key n).map fun row => .replaced row.2

/-- Nouns that are their own plural. -/
def unchanged : Rule :=
  onlyIf
    (fun n => n.isOne unchangedNouns || unchangedNames.any (fun name => name.toList == n.written) ||
      n.ends unchangedEndings)
    0 ""

/-- Nouns in "man". -/
def menRule : Rule := fun n =>
  if !n.ends ["man"] then none
  else if n.ends mansEndings || n.endsWritten mansNames then some (.ending 0 "s")
  else some (.ending 3 "men")

/-- Nouns in "louse". -/
def louseRule : Rule := fun n =>
  if !n.ends ["louse"] then none
  else if n.isOne liceNouns then some (.ending 5 "lice")
  else some (.ending 0 "s")

/-- Nouns in "z", but not those in "zz". -/
def zRule : Rule := fun n =>
  if !n.ends ["z"] then none
  else if n.ends ["quartz", "topaz"] then some (.ending 0 "es")
  else if n.ends ["zz"] then none
  else some (.ending 0 "zes")

/-- Nouns in "f" whose "f" becomes a "v". -/
def vesRule : Rule :=
  onlyIf
    (fun n => n.ends ["elf", "alf", "olf", "arf"] || (n.ends ["eaf"] && !n.ends ["deaf"])) 1 "ves"

/-- Nouns in "y": after a vowel, alone, or in a noun that begins with no small letter the "y"
stays. -/
def yRule : Rule := fun n =>
  if !n.ends ["y"] then none
  else if n.written.length = 1 || n.vowelBeforeLast || n.startsUnlettered then some (.ending 0 "s")
  else some (.ending 1 "ies")

/-- Nouns in "o" that take an "s" only. -/
def osRule : Rule :=
  onlyIf (fun n => n.isOne oNouns || n.ends oEndings || n.ends ["ao", "eo", "io", "oo", "uo"]) 0 "s"

/-- All rules but the last, the first that knows a noun deciding. -/
def rules : List Rule :=
  [unchanged,
   fromTable Noun.lower pronouns,
   fromTable Noun.written irregularNames,
   fromTable Noun.lower irregularNouns,
   onEnding ["quy"] 1 "ies",
   onEnding ["person"] 4 "ople",
   menRule,
   onEnding ["mouse"] 5 "mice",
   louseRule,
   onEnding ["goose"] 5 "geese",
   onEnding ["tooth"] 5 "teeth",
   onEnding ["foot"] 4 "feet",
   onEnding ["taco"] 5 "tacos",
   fromTable Noun.lower [("die", "dice")],
   onEnding ["ceps"] 0 "",
   onEnding ["zoon"] 2 "a",
   onEnding ["cis", "sis", "xis"] 2 "es",
   onEnding chsEndings 0 "s",
   onEnding exEndings 2 "ices",
   onEnding ixEndings 2 "ices",
   onEnding umEndings 2 "a",
   onEnding usEndings 2 "i",
   onEnding onEndings 2 "a",
   onEnding aeEndings 0 "e",
   onlyIf (fun n => n.isOne singularInS || n.ends ["ss", "us", "itis"]) 0 "es",
   onlyIf (fun n => n.ends ["es"] && n.startsUnlettered) 0 "es",
   zRule,
   onEnding ["ch", "sh", "zz", "ss", "x"] 0 "es",
   vesRule,
   onEnding ["nife", "life", "wife"] 2 "ves",
   yRule,
   osRule,
   onEnding ["o"] 0 "es"]

/-- The inflection of a noun; an "s" is added when no rule knows the noun. -/
def inflection (n : Noun) : Inflection :=
  (rules.findSome? fun rule => rule n).getD (.ending 0 "s")

/-- A word with its first letter in upper case and the others in lower case. -/
def capitalized : List Char → List Char
  | [] => []
  | c :: r => c.toUpper :: r.map Char.toLower

/-- The plural in the letter case of the noun: all capitals when the noun has no small letter,
capitalized when the noun is. The pronoun "I" tells nothing of the case. -/
def restoreCase (w plural : List Char) : List Char :=
  if w = ['I'] then plural
  else if w.map Char.toUpper = w then plural.map Char.toUpper
  else if capitalized w = w then capitalized plural
  else plural

/-- The plural of a noun. -/
def plural (w : List Char) : List Char :=
  let n := ofLetters w
  restoreCase w ((inflection n).apply n)

end Noun

end ModelGraph
