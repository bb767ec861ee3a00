import ModelGraph.Directive.Basic
import ModelGraph.ImportSet.Basic
import ModelGraph.Model.Partition
import ModelGraph.Options.Basic

/-!
# Models of a graph

A model of a graph owns its classified fields and the import statements of its generated schema:
first those of the directive in its documentation, then those that its field types imply.
-/

namespace ModelGraph

/-- A model of the datamodel. -/
structure Model where
  source : Document.Model
  names : Name.Forms
  fields : List Field
  byKind : Partition
  imports : ImportSet
  /-- The documentation without its directive, when it has one. -/
  clearedDocumentation : Option String
  deriving Repr

namespace Model

/-- The name of the model. -/
def name (m : Model) : String :=
  m.source.name

/-- Whether the model has a relation to another one. -/
def hasRelationFields (m : Model) : Bool :=
  !m.byKind.relation.isEmpty

/-- Whether a field of the model is left out of the arguments of write actions. -/
def hasOmittedFields (m : Model) : Bool :=
  m.fields.any Field.isOmitted

/-- The first field with a name. -/
def field? (m : Model) (name : String) : Option Field :=
  m.fields.find? fun f => f.name == name

/-- Where the model is, as it is appended to messages about it. -/
def location (m : Model) : String :=
  modelLocation m.name

/-- Whether an extra type with optional default-valued fields is to be generated. -/
def wantsOptionalDefaults (options : Options) (m : Model) : Bool :=
  m.fields.any Field.isOptionalDefault && options.optionalDefaults

/-- The model as it is shown. -/
def display (m : Model) : String :=
  "ExtendedModel(" ++ Text.quote m.name ++ ")"

/-- The statement, as a list, when the condition holds. -/
def statementIf (condition : Bool) (statement : String) : List String :=
  if condition then [statement] else []

/-- The statements that the types of the fields imply. -/
def automaticImports (options : Options) (fields : List Field) : List String :=
  statementIf (fields.any fun f => f.isJson && !f.isRequired)
      (Import.nullableJson options.helpersPath) ++
    statementIf (fields.any fun f => f.isJson && f.isRequired)
      (Import.inputJson options.helpersPath) ++
    statementIf (fields.any Field.isDecimal) (Import.client options.clientPath) ++
    (Partition.ofFields fields).enum.map fun f => Import.schema options.enumPath f.type

/-- The directive in the documentation of a model; one without statements is worth a note. -/
def takeDirective (source : Document.Model) : Traced Failure (Option Directive) :=
  match Directive.extract source.documentation source.name with
  | .error failure => .fail failure
  | .ok none => .result none
  | .ok (some directive) => do
    if directive.statements.isEmpty then
      .log .directive .debug
        ("Import directive without valid statements. " ++ modelLocation source.name)
    return some directive

/-- The note on a finished model. -/
def note (m : Model) : String :=
  "Model '" ++ m.name ++ "': " ++ toString m.fields.length ++ " fields, " ++
    toString m.imports.size ++ " imports"

/-- The model of a graph for a model of the document. -/
def build (options : Options) (source : Document.Model) : Traced Failure Model := do
  let names ← Name.tracedForms source.name
  let fields ← Traced.each (Field.build source.name) source.fields
  let directive ← takeDirective source
  let requested := (directive.map Directive.statements).getD []
  let model : Model :=
    { source
      names
      fields
      byKind := Partition.ofFields fields
      imports := OrderedSet.ofList (requested ++ automaticImports options fields)
      clearedDocumentation := directive.map Directive.cleared }
  Traced.log .model .debug model.note
  return model

end Model

end ModelGraph
