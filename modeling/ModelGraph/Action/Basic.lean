import ModelGraph.Action.Arg
import ModelGraph.Action.Verb

/-!
# Actions of a graph

An action is named by a verb, a model type, and perhaps the suffix "OrThrow". From the name alone
come the verb, the model type and the name of the type of its arguments; the model type then leads
to a model of the datamodel.
-/

namespace ModelGraph

/-- An action of the client. -/
structure Action where
  source : Document.Operation
  names : Name.Forms
  verb : String
  /-- The name without the verb and the suffix. -/
  modelType : String
  /-- The name of the type of the arguments, if the verb has one. -/
  argName : Option String
  /-- The place of the linked model in the datamodel. -/
  linkedIndex : Option Nat
  linkedModel : Option Model
  args : List Arg
  imports : ImportSet

namespace Action

/-- The suffix of the names of actions that throw when they find nothing. -/
def throwSuffix : String := "OrThrow"

/-- What the name of a write action mentions. -/
def writeWords : List String :=
  ["create", "upsert", "update", "delete"]

/-- What the name of a write action on many records mentions. -/
def bulkWords : List String :=
  ["createMany", "updateMany", "deleteMany"]

/-- The name of an action without its verb and the suffix. -/
def modelTypeOf (verb name : String) : String :=
  Text.erase throwSuffix (Text.erase verb name)

/-- The name of the type of the arguments of an action, if its verb has a label. -/
def argNameOf (verb modelType name : String) : Option String :=
  (Verb.label? verb).map fun label =>
    modelType ++ Name.pascal label ++
      (if Text.occurs throwSuffix name then throwSuffix else "") ++ "Args"

/-- The place of the first model whose name occurs in a model type. -/
def linkedIndex? (modelType : String) (models : List Model) : Option Nat :=
  models.findIdx? fun m => Text.occurs m.name modelType

/-- Whether an action of this name may select and include records. Writes on many records give a
count instead. -/
def selectsRecords (name : String) : Bool :=
  !Text.mentionsAny bulkWords name

/-- The statements that the arguments of an action need: the include schema of its model type
when its linked model has relations, then the schemas of the types of its arguments. Schemas that
generated code never imports are left out. -/
def importsOf (options : Options) (name modelType : String) (linked : Option Model)
    (args : List Arg) : ImportSet :=
  let includes :=
    Model.statementIf (selectsRecords name && linked.any Model.hasRelationFields)
      (Import.includeSchema options.inputTypePath modelType)
  let inputs := args.flatMap fun arg => arg.typeNames.map (Import.schema options.inputTypePath)
  (OrderedSet.ofList (includes ++ inputs)).exclude Import.mentionsBuiltin

/-- The name of the action. -/
def name (a : Action) : String :=
  a.source.name

/-- Whether the action writes and its linked model has fields to leave out. -/
def hasOmittedFields (a : Action) : Bool :=
  Text.mentionsAny writeWords a.name && a.linkedModel.any Model.hasOmittedFields

/-- Whether the action may select and include records. -/
def includesRecords (a : Action) : Bool :=
  selectsRecords a.name

/-- The note on a finished action. -/
def note (a : Action) : String :=
  "Action '" ++ a.name ++ "': verb=" ++ a.verb ++ ", model_type=" ++ a.modelType ++
    ", linked_model=" ++ (a.linkedModel.map Model.name).getD "None"

/-- The action that a name with a known verb stands for. -/
def ofVerb (options : Options) (models : List Model) (source : Document.Operation)
    (names : Name.Forms) (verb : String) : Action :=
  let modelType := modelTypeOf verb source.name
  let linkedIndex := linkedIndex? modelType models
  let linkedModel := linkedIndex.bind fun i => models[i]?
  let args := source.args.map fun arg =>
    { source := arg, linkedField := linkedModel.bind fun m => m.field? arg.name }
  { source
    names
    verb
    modelType
    argName := argNameOf verb modelType source.name
    linkedIndex
    linkedModel
    args
    imports := importsOf options source.name modelType linkedModel args }

/-- The action of a graph for an operation of the document. -/
def build (options : Options) (verbs : List String) (models : List Model)
    (source : Document.Operation) : Traced Failure Action := do
  let names ← Name.tracedForms source.name
  match Verb.find? verbs source.name with
  | none => .fail (.unknownVerb source.name)
  | some verb =>
    let action := ofVerb options models source names verb
    Traced.log .action .debug action.note
    return action

end Action

end ModelGraph
