import ModelGraph.Proofs.Action.Linking

/-!
# Actions and their operations

Every action of a graph comes from an operation of the document, and the actions stand in the order
of their operations. Of the output types with one name the last one counts, and it replaces what the
others have. So a graph takes up all operations of a document exactly when none are replaced
(`operations_taken_up`).
-/

namespace ModelGraph

/-! ## Operations that are replaced -/

namespace Document

/-- The operations of all output types with a name. -/
def allOperations (d : Document) (name : String) : List Operation :=
  (d.typesNamed name).flatMap OutputType.fields

/-- The operations of the output types with a name that another one follows. -/
def replacedOperations (d : Document) (name : String) : List Operation :=
  (d.typesNamed name).dropLast.flatMap OutputType.fields

/-- Every operation is either replaced or kept. -/
theorem allOperations_eq_append (d : Document) (name : String) :
    d.allOperations name = d.replacedOperations name ++ d.keptOperations name := by
  unfold allOperations replacedOperations keptOperations
  rcases List.eq_nil_or_concat (d.typesNamed name) with hnil | ⟨earlier, last, hconcat⟩
  · rw [hnil]
    rfl
  · rw [hconcat, List.concat_eq_append]
    simp

end Document

/-! ## The actions of a graph -/

/-- The action comes from the operation it was built for. -/
theorem Action.source_of_build {options : Options} {verbs : List String} {models : List Model}
    {source : Document.Operation} {a : Action}
    (h : (build options verbs models source).outcome = .ok a) : a.source = source := by
  obtain ⟨names, verb, -, -, rfl⟩ := build_eq_ok_iff.1 h
  rfl

/-- Actions come from their operations one by one. -/
theorem Action.map_source_of_forall₂ {options : Options} {verbs : List String}
    {models : List Model} {sources : List Document.Operation} {actions : List Action}
    (h : List.Forall₂ (fun s a => (build options verbs models s).outcome = .ok a)
      sources actions) : actions.map source = sources := by
  induction h with
  | nil => rfl
  | cons ha _ ih => rw [List.map_cons, source_of_build ha, ih]

namespace Graph

variable {options : Options} {verbs : List String} {document : Document} {g : Graph}

/-- The graph has an action for each of the given operations, in order, and no other actions. An
action is found by the name of its operation, the first one among several. -/
structure TakesUp (g : Graph) (queries mutations : List Document.Operation) : Prop where
  queries_eq : g.queries.map Action.name = queries.map Document.Operation.name
  mutations_eq : g.mutations.map Action.name = mutations.map Document.Operation.name
  action?_eq_some_iff : ∀ name a, g.action? name = some a ↔
    ∃ before after, g.queries ++ g.mutations = before ++ a :: after ∧ a.name = name ∧
      ∀ b ∈ before, b.name ≠ name
  action?_eq_none_iff : ∀ name, g.action? name = none ↔
    ∀ operation ∈ queries ++ mutations, operation.name ≠ name

/-- An action is found exactly when it is the first one of its name. -/
theorem action?_eq_some_iff_first {name : String} {a : Action} : g.action? name = some a ↔
    ∃ before after, g.queries ++ g.mutations = before ++ a :: after ∧ a.name = name ∧
      ∀ b ∈ before, b.name ≠ name := by
  rw [action?, actions, List.find?_eq_some_iff_append]
  constructor
  · rintro ⟨hname, before, after, hactions, hnone⟩
    exact ⟨before, after, hactions, by simpa using hname, fun b hb => by simpa using hnone b hb⟩
  · rintro ⟨before, after, hactions, hname, hnone⟩
    exact ⟨by simpa using hname, before, after, hactions, fun b hb => by simpa using hnone b hb⟩

/-- A graph takes up the operations that its actions are named after. -/
theorem takesUp_iff {queries mutations : List Document.Operation} : g.TakesUp queries mutations ↔
    g.queries.map Action.name = queries.map Document.Operation.name ∧
      g.mutations.map Action.name = mutations.map Document.Operation.name := by
  refine ⟨fun h => ⟨h.queries_eq, h.mutations_eq⟩, fun ⟨hqueries, hmutations⟩ => ?_⟩
  refine ⟨hqueries, hmutations, fun _ _ => action?_eq_some_iff_first, fun name => ?_⟩
  have hnames : g.actions.map Action.name =
      (queries ++ mutations).map Document.Operation.name := by
    rw [actions, List.map_append, List.map_append, hqueries, hmutations]
  calc g.action? name = none
      ↔ ∀ n ∈ g.actions.map Action.name, n ≠ name := by simp [action?]
    _ ↔ ∀ operation ∈ queries ++ mutations, operation.name ≠ name := by
        rw [hnames, List.forall_mem_map]

/-- The actions of a graph come from the operations that are kept. -/
theorem map_source_of_ofDocument (h : (ofDocument options verbs document).outcome = .ok g) :
    g.queries.map Action.source = document.keptOperations "Query" ∧
      g.mutations.map Action.source = document.keptOperations "Mutation" := by
  obtain ⟨-, -, hqueries, hmutations⟩ := ofDocument_eq_ok_iff.1 h
  exact ⟨Action.map_source_of_forall₂ hqueries, Action.map_source_of_forall₂ hmutations⟩

/-- Names that stand for the kept operations stand for all of them exactly when none are
replaced. -/
theorem names_eq_all_iff {actions : List Action} {name : String}
    (h : actions.map Action.source = document.keptOperations name) :
    actions.map Action.name = (document.allOperations name).map Document.Operation.name ↔
      document.replacedOperations name = [] := by
  have hnames : actions.map Action.name =
      (document.keptOperations name).map Document.Operation.name := by
    rw [← h, List.map_map]
    rfl
  rw [hnames, document.allOperations_eq_append, List.map_append, List.self_eq_append_left,
    List.map_eq_nil_iff]

/-- The actions of a graph come, in order, from the operations of the last output types named
"Query" and "Mutation". They take up the operations of all such output types exactly when there are
none in the earlier ones, which the last ones replace. -/
theorem operations_taken_up (h : (ofDocument options verbs document).outcome = .ok g) :
    g.queries.map Action.source = document.keptOperations "Query" ∧
      g.mutations.map Action.source = document.keptOperations "Mutation" ∧
      g.TakesUp (document.keptOperations "Query") (document.keptOperations "Mutation") ∧
      (∀ name, document.allOperations name =
        document.replacedOperations name ++ document.keptOperations name) ∧
      (g.TakesUp (document.allOperations "Query") (document.allOperations "Mutation") ↔
        document.replacedOperations "Query" = [] ∧
          document.replacedOperations "Mutation" = []) := by
  obtain ⟨hqueries, hmutations⟩ := map_source_of_ofDocument h
  refine ⟨hqueries, hmutations, takesUp_iff.2 ?_, document.allOperations_eq_append, ?_⟩
  · rw [← hqueries, ← hmutations, List.map_map, List.map_map]
    exact ⟨rfl, rfl⟩
  · rw [takesUp_iff, names_eq_all_iff hqueries, names_eq_all_iff hmutations]

/-- Output types with other names have no part in it, wherever they stand. -/
theorem operations_taken_up_around_counts :
    ∃ g, (ofDocument .default Verb.all (.ofTypes
        [("UserCount", ["posts"]), ("Mutation", ["createOneUser"]), ("User", ["findManyUser"]),
          ("Query", ["findManyUser", "findFirstUser"]), ("Post", ["id"])])).outcome = .ok g ∧
      g.queries.map Action.name = ["findManyUser", "findFirstUser"] ∧
      g.mutations.map Action.name = ["createOneUser"] := by
  obtain ⟨g, hg, -⟩ := Traced.exists_outcome_of_any (p := fun _ => true)
    (x := ofDocument .default Verb.all (.ofTypes
      [("UserCount", ["posts"]), ("Mutation", ["createOneUser"]), ("User", ["findManyUser"]),
        ("Query", ["findManyUser", "findFirstUser"]), ("Post", ["id"])])) (by decide)
  obtain ⟨-, -, -, -, hall⟩ := operations_taken_up hg
  have htaken := hall.2 (by decide)
  exact ⟨g, hg, htaken.queries_eq, htaken.mutations_eq⟩

/-- Operations can be lost: a second output type named "Query" replaces those of the first one. -/
theorem operations_not_always_taken_up :
    ¬ ∀ options verbs document g, (ofDocument options verbs document).outcome = .ok g →
      g.TakesUp (document.allOperations "Query") (document.allOperations "Mutation") := by
  intro hall
  obtain ⟨g, hg, hnames⟩ := Traced.exists_outcome_of_any
    (x := ofDocument .default Verb.all
      (.ofTypes [("Query", ["findManyUser"]), ("Query", ["findManyPost"])]))
    (p := fun g => decide (g.queries.map Action.name = ["findManyPost"])) (by decide)
  have htaken := (hall _ _ _ g hg).queries_eq
  rw [of_decide_eq_true hnames] at htaken
  exact absurd htaken (by decide)

end Graph

end ModelGraph
