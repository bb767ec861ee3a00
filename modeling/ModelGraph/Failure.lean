import ModelGraph.Report
import ModelGraph.Text.Utf8
import ModelGraph.Validation.Violation
import ModelGraph.Yaml.Fault

/-!
# Failures

A failure is why a document or a set of options could not be used. `Failure.describe` is its full
text: that of a report, or for a failure without a report the bare wording of what is behind it.
-/

namespace ModelGraph

/-- Why a document or a set of options could not be used. -/
inductive Failure where
  /-- The options violate their rules; they come from a file or not. -/
  | options (violations : List Validation.Violation) (file : Option String)
  /-- The options file holds something other than a mapping. -/
  | optionsNotMapping (file : String)
  /-- The options file is no text. -/
  | optionsUndecodable (failure : Text.Utf8.Failure)
  /-- The options file is no YAML. -/
  | optionsMalformed (file : String) (fault : Yaml.Fault)
  /-- The options file says a value that cannot be. -/
  | optionsImpossible (value : Yaml.Impossible)
  /-- The path of the options file is given once more among the overrides. -/
  | pathOverridden
  /-- A key of the overrides is no text. -/
  | overrideNotText
  /-- The document does not have the expected shape. -/
  | document (violations : List Validation.Violation)
  /-- The directive in the documentation of a model has an unknown tag. -/
  | unknownTag (model tag : String)
  /-- The name of an action has no known verb in it. -/
  | unknownVerb (action : String)
  /-- A name has no forms. -/
  | name (fault : Fault)

/-- Where a model is, as it is appended to messages about it. -/
def modelLocation (model : String) : String :=
  "[Error Location]: Model: '" ++ model ++ "'."

/-- Where a field of a model is. -/
def fieldLocation (model field : String) : String :=
  "[Error Location]: Model: '" ++ model ++ "', Field: '" ++ field ++ "'."

namespace Failure

/-- The violations of a value, where a location without text is written `root`. -/
def violationText (root : String) (violations : List Validation.Violation) : String :=
  "; ".intercalate (violations.map (Validation.Violation.describe root))

/-- The detail of the options file, when there is one. -/
def fileDetail (file : Option String) : List (String × Value) :=
  [("config_file", .optionalText file)]

/-- The report of a failure, or the wording of what is behind one without a report. -/
def report : Failure → Except String Report
  | .options violations file =>
    .ok (.plain .options "Invalid generator configuration"
      (("errors", .text (violationText "<root>" violations)) :: fileDetail file))
  | .optionsNotMapping file =>
    .ok (.plain .options "Configuration file must contain a mapping" (fileDetail (some file)))
  | .optionsUndecodable failure => .error failure.message
  | .optionsMalformed file fault =>
    .ok (.plain .options ("Error parsing YAML file " ++ file ++ ": " ++ fault.message)
      (fileDetail (some file)))
  | .optionsImpossible value => .error value.message
  | .pathOverridden => .error "load_config() got multiple values for argument 'config_path'"
  | .overrideNotText => .error "keywords must be strings"
  | .document violations =>
    .ok (.plain .document "Raw model description is malformed"
      [("errors", .text (violationText "" violations))])
  | .unknownTag model tag =>
    .ok (.plain .directive
      ("[@zod generator error]: '" ++ tag ++ "' is not a valid validator key. " ++
        modelLocation model)
      [("model", .text model), ("directive_type", .text tag)])
  | .unknownVerb action =>
    .ok (.plain .action ("Action '" ++ action ++ "' does not contain a known action verb")
      [("action", .text action)])
  | .name fault => .error fault.message

/-- The text of a failure. -/
def describe (failure : Failure) : String :=
  match failure.report with
  | .ok report => report.render
  | .error wording => wording

end Failure

end ModelGraph
