import ModelGraph.Text.Utf8

/-!
# Faults of YAML texts

A text can be refused in three ways: it is no YAML, it says a value that cannot be, such as a day
that no month has, or its bytes are no text at all.
-/

namespace ModelGraph.Yaml

/-- Why a text is no YAML. -/
inductive Fault where
  | unprintable
  /-- No token begins with a character. -/
  | unexpectedCharacter
  /-- A line that has to be a key has no colon. -/
  | keyWithoutColon
  | misplacedEntry
  | misplacedKey
  | misplacedValue
  /-- A bracket closes nothing. -/
  | unopened
  | badDirective
  | badName
  | badTag
  | badBlockHeader
  | badEscape
  | unclosedQuote
  /-- A document ends inside quotes. -/
  | markInQuotes
  /-- There is no value where one has to be. -/
  | noContent
  /-- A list or an object is not continued as it has to be. -/
  | unexpectedToken
  | incompatibleVersion
  | duplicateDirective
  | undefinedHandle
  | undefinedAlias
  | duplicateAnchor
  | secondDocument
  | unknownTag
  /-- A tag asks for a scalar, a list or an object, and something else is there. -/
  | wrongShape
  | notBase64
  /-- A key is a list or an object. -/
  | compoundKey
  | notMergeable
  deriving DecidableEq, Repr

/-- The wording of a fault. -/
def Fault.message : Fault → String
  | .unprintable => "special characters are not allowed"
  | .unexpectedCharacter => "found character that cannot start any token"
  | .keyWithoutColon => "could not find expected ':'"
  | .misplacedEntry => "sequence entries are not allowed here"
  | .misplacedKey => "mapping keys are not allowed here"
  | .misplacedValue => "mapping values are not allowed here"
  | .unopened => "found a closing bracket without an opening one"
  | .badDirective => "found a malformed directive"
  | .badName => "expected alphabetic or numeric character"
  | .badTag => "found a malformed tag"
  | .badBlockHeader => "expected chomping or indentation indicators"
  | .badEscape => "found unknown escape character"
  | .unclosedQuote => "found unexpected end of stream"
  | .markInQuotes => "found unexpected document separator"
  | .noContent => "expected the node content"
  | .unexpectedToken => "expected the end of a collection"
  | .incompatibleVersion => "found incompatible YAML document (version 1.* is required)"
  | .duplicateDirective => "found duplicate directive"
  | .undefinedHandle => "found undefined tag handle"
  | .undefinedAlias => "found undefined alias"
  | .duplicateAnchor => "found duplicate anchor"
  | .secondDocument => "expected a single document in the stream"
  | .unknownTag => "could not determine a constructor for the tag"
  | .wrongShape => "found a node of another kind than its tag"
  | .notBase64 => "failed to decode base64 data"
  | .compoundKey => "found unhashable key"
  | .notMergeable => "expected a mapping or list of mappings for merging"

/-- Why a value cannot be. -/
inductive Impossible where
  /-- A node stands too deep within others, or within itself. -/
  | tooDeep
  /-- An escape has a code beyond the last character. -/
  | noSuchCharacter
  /-- An escape has a code that is beyond the range of codes altogether. -/
  | hugeCharacter
  /-- A number is asked for and there is nothing. -/
  | emptyNumber
  | notInteger (base : Nat) (text : String)
  | notReal (text : String)
  /-- A decimal integer has too many digits. -/
  | longInteger (digits : Nat)
  /-- A part of a real counts more units than a real can say. -/
  | hugeUnit
  /-- A word says neither true nor false. -/
  | noFlag (word : String)
  | noMoment
  /-- A moment is asked for and there is an object. -/
  | momentOfObject
  | year
  | month
  | day
  | hour
  | minute
  | second
  /-- A time zone is a day or more away; `delta` is how far. -/
  | zone (delta : String)
  deriving DecidableEq, Repr

/-- The number of digits that an integer may have to be read or written in decimal. -/
def digitLimit : Nat := 4300

/-- How deep nodes may stand within each other. -/
def depthLimit : Nat := 492

/-- The wording of an impossible value. -/
def Impossible.message : Impossible → String
  | .tooDeep => "maximum recursion depth exceeded"
  | .noSuchCharacter => "chr() arg not in range(0x110000)"
  | .hugeCharacter => "Python int too large to convert to C int"
  | .emptyNumber => "string index out of range"
  | .notInteger base text =>
    "invalid literal for int() with base " ++ toString base ++ ": " ++
      String.ofList ((Text.quote text).toList.take 200)
  | .notReal text => "could not convert string to float: " ++ Text.quote text
  | .longInteger digits =>
    "Exceeds the limit (" ++ toString digitLimit ++ " digits) for integer string conversion: " ++
      "value has " ++ toString digits ++
      " digits; use sys.set_int_max_str_digits() to increase the limit"
  | .hugeUnit => "int too large to convert to float"
  | .noFlag word => Text.quote word
  | .noMoment => "'NoneType' object has no attribute 'groupdict'"
  | .momentOfObject => "expected string or bytes-like object, got 'list'"
  | .year => "year 0 is out of range"
  | .month => "month must be in 1..12"
  | .day => "day is out of range for month"
  | .hour => "hour must be in 0..23"
  | .minute => "minute must be in 0..59"
  | .second => "second must be in 0..59"
  | .zone delta =>
    "offset must be a timedelta strictly between -timedelta(hours=24) and timedelta(hours=24), " ++
      "not " ++ delta ++ "."

/-- Why a text is refused. -/
inductive Refusal where
  | malformed (fault : Fault)
  | impossible (value : Impossible)
  | undecodable (failure : Text.Utf8.Failure)
  deriving DecidableEq, Repr

end ModelGraph.Yaml
