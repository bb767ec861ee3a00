import ModelGraph.Action.Basic
import ModelGraph.Document.Read
import ModelGraph.Graph.Datamodel

/-!
# Graphs

A graph is built in two phases: first the datamodel, then the actions, each of which looks its
model up in the finished datamodel. The first failure ends the build.
-/

namespace ModelGraph

/-- A graph of models and the actions on them. -/
structure Graph where
  options : Options
  datamodel : Datamodel
  queries : List Action
  mutations : List Action

/-- How many there are of each part of a graph. -/
structure Graph.Summary where
  models : Nat
  enums : Nat
  actions : Nat
  linkedActions : Nat
  deriving DecidableEq, Repr

namespace Graph

/-- All actions, the queries first. -/
def actions (g : Graph) : List Action :=
  g.queries ++ g.mutations

/-- The first action with a name. -/
def action? (g : Graph) (name : String) : Option Action :=
  g.actions.find? fun a => a.name == name

/-- The counts of the parts of the graph. -/
def summary (g : Graph) : Summary :=
  { models := g.datamodel.models.length
    enums := g.datamodel.enums.length
    actions := g.actions.length
    linkedActions := g.actions.countP fun a => a.linkedIndex.isSome }

/-- The message on a finished graph. -/
def Summary.message (s : Summary) : String :=
  "Graph built: " ++ toString s.models ++ " models, " ++ toString s.enums ++ " enums, " ++
    toString s.actions ++ " actions (" ++ toString s.linkedActions ++ " linked)"

/-- The operations of the last output type with a name, or none if there is no such type. -/
def operationsOf (name : String) (types : List Document.OutputType) : List Document.Operation :=
  match types.reverse.find? fun t => t.name == name with
  | none => []
  | some t => t.fields

/-- The graph of a document. -/
def ofDocument (options : Options) (verbs : List String) (document : Document) :
    Traced Failure Graph := do
  Traced.log .graph .info (Log.progress "Building models...")
  let datamodel ← Datamodel.build options document.datamodel
  Traced.log .graph .info (Log.progress "Linking actions...")
  let types := document.schema.outputTypes.client
  let build := Traced.each (Action.build options verbs datamodel.models)
  let queries ← build (operationsOf "Query" types)
  let mutations ← build (operationsOf "Mutation" types)
  return { options, datamodel, queries, mutations }

/-- The document that a value describes. -/
def document (raw : Value) : Except Failure Document :=
  (Document.read raw).toExcept Failure.document

/-- The graph of the document that a value describes, with all that is logged on the way. -/
def build (options : Options) (verbs : List String) (raw : Value) : Traced Failure Graph := do
  Traced.logAll .graph .info (Log.sectionLines "Building DMMF graph")
  let document ← Traced.ofExcept (document raw)
  let graph ← ofDocument options verbs document
  Traced.log .graph .info (Log.success graph.summary.message)
  return graph

end Graph

end ModelGraph
