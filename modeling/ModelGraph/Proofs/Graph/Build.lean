import ModelGraph.Graph.Basic
import ModelGraph.Proofs.Log.Outcome

/-!
# What a successful build gives

For each part of a graph, the conditions under which it is built and the part that comes out. They
say everything that a build can give, so hardly anything after this module unfolds a build. The
operations of a document are those of the last output types with the names "Query" and "Mutation"
(`Document.queries`, `Document.mutations`), and `ofDocument_eq` shows where a build takes them up.
For graphs read `ofDocument_eq_ok_iff`; `exists_build_of_mem_actions` is what most proofs need of it.
-/

namespace ModelGraph

open Traced

/-- A name has forms as a step exactly when it has them. -/
@[simp] theorem Name.outcome_tracedForms_eq_ok_iff {name : String} {names : Name.Forms} :
    (Name.tracedForms name).outcome = .ok names ↔ Name.forms name = .ok names := by
  unfold Name.tracedForms
  cases Name.forms name with
  | error e => simp [Except.mapError]
  | ok found => simp [Except.mapError]

/-! ## The operations of a document -/

namespace Document

/-- The output types with a name. -/
def typesNamed (d : Document) (name : String) : List OutputType :=
  d.schema.outputTypes.client.filter fun t => t.name == name

/-- The operations of the last output type with a name. -/
def keptOperations (d : Document) (name : String) : List Operation :=
  ((d.typesNamed name).getLast?.map OutputType.fields).getD []

/-- The operations that become queries. -/
def queries (d : Document) : List Operation :=
  d.keptOperations "Query"

/-- The operations that become mutations. -/
def mutations (d : Document) : List Operation :=
  d.keptOperations "Mutation"

/-- All operations, in the order in which they become actions. -/
def operations (d : Document) : List Operation :=
  d.queries ++ d.mutations

/-- The operations that are looked up under a name are those of the last type. -/
theorem operationsOf_eq_keptOperations (d : Document) (name : String) :
    Graph.operationsOf name d.schema.outputTypes.client = d.keptOperations name := by
  rw [Graph.operationsOf, keptOperations, typesNamed, ← List.head?_filter, List.filter_reverse,
    List.head?_reverse]
  cases (d.schema.outputTypes.client.filter fun t => t.name == name).getLast? <;> rfl

end Document

/-! ## Models and the datamodel -/

/-- Taking the directive of a model comes to what is extracted from its documentation. -/
@[simp] theorem Model.outcome_takeDirective (source : Document.Model) :
    (takeDirective source).outcome = Directive.extract source.documentation source.name := by
  unfold takeDirective
  split
  · next hextract => exact hextract.symm
  · next hextract => exact hextract.symm
  · next directive hextract =>
      rw [hextract]
      split <;> rfl

/-- A model is built exactly when its name and the names of its fields have forms and its
documentation has no unknown directive. -/
theorem Model.build_eq_ok_iff {options : Options} {source : Document.Model} {m : Model} :
    (build options source).outcome = .ok m ↔
      ∃ names fields directive,
        Name.forms source.name = .ok names ∧
        List.Forall₂ (fun f field => (Field.build source.name f).outcome = .ok field)
          source.fields fields ∧
        Directive.extract source.documentation source.name = .ok directive ∧
        m = { source
              names
              fields
              byKind := Partition.ofFields fields
              imports := OrderedSet.ofList
                ((directive.map Directive.statements).getD [] ++ automaticImports options fields)
              clearedDocumentation := directive.map Directive.cleared } := by
  unfold build
  simp only [outcome_bind_eq_ok_iff, outcome_log_bind, outcome_each_eq_ok_iff,
    Name.outcome_tracedForms_eq_ok_iff, outcome_takeDirective, outcome_pure, Except.ok.injEq]
  constructor
  · rintro ⟨names, hnames, fields, hfields, directive, hdirective, rfl⟩
    exact ⟨names, fields, directive, hnames, hfields, hdirective, rfl⟩
  · rintro ⟨names, fields, directive, hnames, hfields, hdirective, rfl⟩
    exact ⟨names, hnames, fields, hfields, directive, hdirective, rfl⟩

/-- A model that was built has the forms of its name. -/
theorem Model.forms_of_build {options : Options} {source : Document.Model} {m : Model}
    (h : (build options source).outcome = .ok m) : Name.forms m.name = .ok m.names := by
  obtain ⟨names, fields, directive, hnames, -, -, rfl⟩ := build_eq_ok_iff.1 h
  exact hnames

/-- A datamodel is built exactly when each of its models and enumerations is, in order. -/
theorem Datamodel.build_eq_ok_iff {options : Options} {source : Document.Datamodel}
    {datamodel : Datamodel} :
    (build options source).outcome = .ok datamodel ↔
      List.Forall₂ (fun s m => (Model.build options s).outcome = .ok m)
        source.models datamodel.models ∧
      List.Forall₂ (fun s e => (Enumeration.build s).outcome = .ok e)
        source.enums datamodel.enums := by
  unfold build
  simp only [outcome_bind_eq_ok_iff, outcome_log_bind, outcome_each_eq_ok_iff, outcome_pure,
    Except.ok.injEq]
  constructor
  · rintro ⟨models, hmodels, enums, henums, rfl⟩
    exact ⟨hmodels, henums⟩
  · rintro ⟨hmodels, henums⟩
    exact ⟨_, hmodels, _, henums, rfl⟩

/-- The models of a datamodel that was built have the forms of their names. -/
theorem Datamodel.forms_of_mem_models {options : Options} {source : Document.Datamodel}
    {datamodel : Datamodel} (h : (build options source).outcome = .ok datamodel) {m : Model}
    (hm : m ∈ datamodel.models) : Name.forms m.name = .ok m.names := by
  obtain ⟨i, hi, rfl⟩ := List.mem_iff_getElem.1 hm
  have hmodels := (build_eq_ok_iff.1 h).1
  exact Model.forms_of_build (hmodels.get (hmodels.length_eq ▸ hi) hi)

/-! ## Actions and graphs -/

/-- An action is built exactly when its name has forms and a verb. -/
theorem Action.build_eq_ok_iff {options : Options} {verbs : List String} {models : List Model}
    {source : Document.Operation} {a : Action} :
    (build options verbs models source).outcome = .ok a ↔
      ∃ names verb, Name.forms source.name = .ok names ∧
        Verb.find? verbs source.name = some verb ∧ a = ofVerb options models source names verb := by
  unfold build
  rw [outcome_bind_eq_ok_iff]
  simp only [Name.outcome_tracedForms_eq_ok_iff]
  cases Verb.find? verbs source.name with
  | none => simp
  | some verb => simp [eq_comm]

/-- The second phase of a build: the graph of a datamodel and some operations. -/
def Graph.ofDatamodel (options : Options) (verbs : List String) (datamodel : Datamodel)
    (queries mutations : List Document.Operation) : Traced Failure Graph :=
  each (Action.build options verbs datamodel.models) queries >>= fun queries =>
    each (Action.build options verbs datamodel.models) mutations >>= fun mutations =>
      pure { options, datamodel, queries, mutations }

/-- The graph of a document is that of its datamodel and its operations. -/
theorem Graph.ofDocument_eq (options : Options) (verbs : List String) (document : Document) :
    ofDocument options verbs document = (do
      Traced.log .graph .info (Log.progress "Building models...")
      let datamodel ← Datamodel.build options document.datamodel
      Traced.log .graph .info (Log.progress "Linking actions...")
      ofDatamodel options verbs datamodel document.queries document.mutations) := by
  rw [Document.queries, Document.mutations, ← Document.operationsOf_eq_keptOperations,
    ← Document.operationsOf_eq_keptOperations]
  rfl

/-- A graph is built exactly when its datamodel is, and then each of its actions from the models of
that datamodel. -/
theorem Graph.ofDocument_eq_ok_iff {options : Options} {verbs : List String}
    {document : Document} {g : Graph} :
    (ofDocument options verbs document).outcome = .ok g ↔
      g.options = options ∧
      (Datamodel.build options document.datamodel).outcome = .ok g.datamodel ∧
      List.Forall₂ (fun s a => (Action.build options verbs g.datamodel.models s).outcome = .ok a)
        document.queries g.queries ∧
      List.Forall₂ (fun s a => (Action.build options verbs g.datamodel.models s).outcome = .ok a)
        document.mutations g.mutations := by
  rw [ofDocument_eq]
  simp only [ofDatamodel, outcome_bind_eq_ok_iff, outcome_log_bind, outcome_each_eq_ok_iff,
    outcome_pure, Except.ok.injEq]
  constructor
  · rintro ⟨datamodel, hdatamodel, queries, hqueries, mutations, hmutations, rfl⟩
    exact ⟨rfl, hdatamodel, hqueries, hmutations⟩
  · rintro ⟨rfl, hdatamodel, hqueries, hmutations⟩
    exact ⟨_, hdatamodel, _, hqueries, _, hmutations, rfl⟩

/-- Every action of a graph was built from the models of the graph. -/
theorem Graph.exists_build_of_mem_actions {options : Options} {verbs : List String}
    {document : Document} {g : Graph} (h : (ofDocument options verbs document).outcome = .ok g)
    {a : Action} (ha : a ∈ g.actions) :
    ∃ source, (Action.build options verbs g.datamodel.models source).outcome = .ok a := by
  obtain ⟨-, -, hqueries, hmutations⟩ := ofDocument_eq_ok_iff.1 h
  have hmem : ∀ {sources actions},
      List.Forall₂ (fun s a => (Action.build options verbs g.datamodel.models s).outcome = .ok a)
        sources actions → a ∈ actions →
      ∃ source, (Action.build options verbs g.datamodel.models source).outcome = .ok a := by
    intro sources actions hbuilt ha
    obtain ⟨i, hi, rfl⟩ := List.mem_iff_getElem.1 ha
    exact ⟨_, hbuilt.get (hbuilt.length_eq ▸ hi) hi⟩
  rcases List.mem_append.1 ha with ha | ha
  · exact hmem hqueries ha
  · exact hmem hmutations ha

/-- What was computed of some action of a graph holds of an action that is built. -/
theorem Graph.exists_build_of_any {options : Options} {verbs : List String} {document : Document}
    {p : Action → Bool}
    (h : (ofDocument options verbs document).outcome.toOption.any (fun g => g.actions.any p) = true) :
    ∃ models source a,
      (Action.build options verbs models source).outcome = .ok a ∧ p a = true := by
  obtain ⟨g, hg, hany⟩ := exists_outcome_of_any h
  obtain ⟨a, ha, hp⟩ := List.any_eq_true.1 hany
  obtain ⟨source, hbuild⟩ := exists_build_of_mem_actions hg ha
  exact ⟨g.datamodel.models, source, a, hbuild, hp⟩

end ModelGraph
