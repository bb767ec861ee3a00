import ModelGraph.Yaml.Moment
import ModelGraph.Yaml.Number

/-!
# Kinds of nodes

A tag says of which kind a node is. A plain scalar without a tag is of the kind whose form its text
has; a line break at its end does not count for that.
-/

namespace ModelGraph.Yaml

/-- A kind of nodes. -/
inductive Kind where
  | null
  | bool
  | int
  | real
  /-- Bytes, written in base 64. -/
  | bytes
  | moment
  | text
  /-- The key under which an object takes in others. -/
  | merge
  /-- The key of a default value. -/
  | default
  | list
  | object
  /-- A set, written as an object whose values do not matter. -/
  | set
  /-- A list of pairs, written as objects of one entry each. -/
  | pairs
  | unknown
  deriving DecidableEq, Repr

namespace Kind

/-- Whether a kind has parts. -/
def isCompound : Kind → Bool
  | .list | .object | .set | .pairs => true
  | _ => false

/-- What the full texts of standard tags begin with. -/
def standardStart : String :=
  "tag:yaml.org,2002:"

/-- The kinds of the standard tags. -/
def standardTags : List (String × Kind) :=
  [("null", .null), ("bool", .bool), ("int", .int), ("float", .real), ("binary", .bytes),
   ("timestamp", .moment), ("str", .text), ("merge", .merge), ("value", .default), ("seq", .list),
   ("map", .object), ("set", .set), ("omap", .pairs), ("pairs", .pairs)]

/-- The kind that a tag says. -/
def ofTag (tag : String) : Kind :=
  match standardTags.find? fun entry => standardStart ++ entry.1 == tag with
  | some (_, kind) => kind
  | none => .unknown

/-- The words for true and false, in lower case. -/
def flagWords : List (String × Bool) :=
  [("yes", true), ("true", true), ("on", true), ("no", false), ("false", false), ("off", false)]

/-- Whether a text is a word for true or false in lower case, in upper case, or with a capital
letter at its front. -/
def isFlag (s : List Char) : Bool :=
  flagWords.any fun (word, _) =>
    let word := word.toList
    s == word || s == word.map Char.toUpper || s == word.modify 0 Char.toUpper

/-- The words for nothing. -/
def nulls : List String :=
  ["~", "null", "Null", "NULL"]

/-- The signs that have a meaning where they stand in front of a node. -/
def signs : List String :=
  ["!", "&", "*"]

/-- The kind of a line, which is not empty. -/
def ofLine (s : String) : Kind :=
  let letters := s.toList
  if isFlag letters then .bool
  else if Number.isReal letters then .real
  else if Number.isInteger letters then .int
  else if s = "<<" then .merge
  else if nulls.contains s then .null
  else if Moment.isPlain letters then .moment
  else if s = "=" then .default
  else if signs.contains s then .unknown
  else .text

/-- The text without a line break at its end. -/
def line (s : List Char) : List Char :=
  if s.getLast? = some '\n' then s.dropLast else s

/-- The kind of a plain scalar. -/
def ofText (s : String) : Kind :=
  if s = "" then .null
  else if s = "\n" then .text
  else ofLine (String.ofList (line s.toList))

end Kind

end ModelGraph.Yaml
