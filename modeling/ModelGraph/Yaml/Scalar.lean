import ModelGraph.Text.Base64
import ModelGraph.Text.Utf8
import ModelGraph.Value
import ModelGraph.Yaml.Kind

/-!
# Scalars

What a text stands for when it is of some kind.
-/

namespace ModelGraph.Yaml

/-- A text of a node. It may be torn: it has halves of characters in it. -/
structure Written where
  text : String
  torn : Bool
  deriving DecidableEq, Repr

/-- Refuses an impossible value. -/
def possible (value : Except Impossible α) : Except Refusal α :=
  value.mapError .impossible

/-- The truth value that a word says. -/
def flagOf (s : List Char) : Except Impossible Bool :=
  let word := String.ofList (Text.lower s)
  match Kind.flagWords.lookup word with
  | some b => .ok b
  | none => .error (.noFlag word)

/-- The bytes that a text in base 64 stands for. -/
def bytesOf (s : List Char) : Except Refusal (List UInt8) :=
  if s.all fun c => c.toNat < 128 then
    match Text.Base64.decode s with
    | some bytes => .ok bytes
    | none => .error (.malformed .notBase64)
  else .error (.malformed .notBase64)

/-- The scalar of a text of some kind. -/
def Kind.scalar (kind : Kind) (written : Written) : Except Refusal Scalar :=
  let s := written.text.toList
  match kind with
  | .null => .ok .null
  | .bool => possible (.bool <$> flagOf s)
  | .int => possible (.int <$> Number.integer s)
  | .real => possible (.real <$> Number.real s)
  | .bytes => .bytes <$> bytesOf s
  | .moment => possible (.moment <$> Moment.ofText (Kind.line s))
  | .text => .ok (if written.torn then .torn written.text else .text written.text)
  | _ => .error (.malformed .unknownTag)

end ModelGraph.Yaml
