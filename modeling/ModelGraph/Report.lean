import ModelGraph.Fault
import ModelGraph.Value

/-!
# Error reports

A report is a message with an error code, a context of named details and suggestions. Each kind of
report has its own code and falls back on its own suggestions.
-/

namespace ModelGraph

/-- What a report tells. Its message and its code are shown as texts. -/
structure Report where
  message : Value
  code : Value
  context : Entries
  suggestions : List Value

namespace Report

/-- The line of the error code; a code that counts as false has none. -/
def codeLines (code : Value) : List String :=
  if code.truthy then ["Error Code: " ++ code.display] else []

/-- The lines of the context. -/
def contextLines (context : Entries) : List String :=
  if context.isEmpty then []
  else "Context:" :: context.map fun detail =>
    "  " ++ detail.1.display ++ ": " ++ detail.2.display

/-- The lines of the suggestions. -/
def suggestionLines (suggestions : List Value) : List String :=
  if suggestions.isEmpty then []
  else "Suggestions:" :: suggestions.map fun suggestion => "  • " ++ suggestion.display

/-- The lines of a report. -/
def lines (r : Report) : List String :=
  r.message.display :: (codeLines r.code ++ contextLines r.context ++ suggestionLines r.suggestions)

/-- The text of a report. -/
def render (r : Report) : String :=
  "\n".intercalate r.lines

/-- The kinds of reports. -/
inductive Kind where
  | general
  /-- The options of the generator are invalid. -/
  | options
  /-- The document does not have the expected shape. -/
  | document
  /-- A directive in a documentation has an unknown tag. -/
  | directive
  /-- An action has no known verb in its name. -/
  | action
  deriving DecidableEq, Repr

/-- The code of a kind; a general report has none of its own. -/
def Kind.code : Kind → Option String
  | .general => none
  | .options => some "CONFIG_ERROR"
  | .document => some "SCHEMA_INPUT_ERROR"
  | .directive => some "DIRECTIVE_ERROR"
  | .action => some "ACTION_RESOLUTION_ERROR"

/-- The suggestions of a kind, which are given when the caller gives none. -/
def Kind.suggestions : Kind → List String
  | .general => []
  | .options =>
    ["Check the configuration file syntax",
     "Verify every path option is a non-empty string"]
  | .document =>
    ["Pass the document produced by the schema engine unchanged",
     "Check that every model, field and action has a name"]
  | .directive =>
    ["Use '@zod.import([...])' to add import statements to a model",
     "Remove the directive from the model documentation"]
  | .action =>
    ["Check that the schema engine version matches the supported verbs",
     "Only pass fields of the Query and Mutation output types"]

/-- The names of the details that some kind of report has of its own. -/
def detailNames : List String :=
  ["config_file", "errors", "model", "directive_type", "action"]

/-- The names of the details that a kind has of its own. -/
def Kind.detailNames : Kind → List String
  | .general => []
  | .options => ["config_file"]
  | .document => ["errors"]
  | .directive => ["model", "directive_type"]
  | .action => ["action"]

/-- The context that a caller hands to a report: nothing, an explicit null, or details. -/
inductive Given where
  | nothing
  | null
  | details (context : Entries)

/-- The context with those of the report's own details that count as true. -/
def addDetails (context : Entries) (own : List (String × Value)) : Entries :=
  (own.filter fun detail => detail.2.truthy).foldl
    (fun acc detail => Entries.put (.text detail.1) detail.2 acc) context

/-- The context of a report from what the caller gave and the report's own details, which a null
cannot take up. -/
def Given.context (own : List (String × Value)) : Given → Except Fault Entries
  | .nothing => .ok (addDetails [] own)
  | .null => if own.any fun detail => detail.2.truthy then .error .contextLeftOut else .ok []
  | .details context => .ok (addDetails context own)

/-- Texts joined by semicolons, from values that should be texts. -/
def joinTexts (items : List Value) : Except Fault String :=
  let texts := items.zipIdx.mapM fun (item, i) =>
    match item with
    | .scalar (.text s) => Except.ok s
    | value => .error (Fault.itemNotText i value.kindName)
  texts.map fun texts => "; ".intercalate texts

/-- A detail as it goes into the context: errors are joined to one text. -/
def detailOf (detail : String × Value) : Except Fault (String × Value) :=
  if detail.1 = "errors" ∧ detail.2.truthy then
    match detail.2.items? with
    | some items => (joinTexts items).map fun s => ("errors", .text s)
    | none => .error .notJoinable
  else .ok detail

/-- The own details of a report among those that the caller gave. The details of other kinds mean
nothing, but a general report takes none at all. -/
def ownDetails (kind : Kind) (given : List (String × Value)) :
    Except Fault (List (String × Value)) :=
  match kind, given with
  | .general, detail :: _ => .error (.unexpectedDetail detail.1)
  | kind, given => (given.filter fun detail => detail.1 ∈ kind.detailNames).mapM detailOf

/-- A report of a kind. The code counts for a general report only. -/
def make (kind : Kind) (message : Value) (details : List (String × Value)) (given : Given)
    (suggestions : List Value) (code : Value) : Except Fault Report := do
  let own ← ownDetails kind details
  let context ← given.context own
  return {
    message
    code := if kind = .general then code else .optionalText kind.code
    context
    suggestions :=
      if suggestions.isEmpty then kind.suggestions.map Value.text else suggestions }

/-- A report with its own details only. -/
def plain (kind : Kind) (message : String) (own : List (String × Value)) : Report :=
  { message := .text message
    code := .optionalText kind.code
    context := addDetails [] own
    suggestions := kind.suggestions.map Value.text }

end Report

end ModelGraph
