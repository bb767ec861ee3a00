import ModelGraph.Proofs.Action.Linking

/-!
# The import of the include schema

An action that gives records may import the include schema of its model type. Whether it does is
decided by its linked model, which need not be the model of that name:
`includeSchema_mem_imports_iff` says when the import is there, and that it leads to a model with
relations where the names that contain others are declared first.
-/

namespace ModelGraph.Action

open Traced

/-- The imports of an action are the include schema, when it is asked for, and the schemas of the
types of the arguments, as far as they mention no schema that is built in. -/
theorem mem_importsOf_iff {options : Options} {name modelType statement : String}
    {linked : Option Model} {args : List Arg} :
    statement ∈ (importsOf options name modelType linked args).toList ↔
      Import.mentionsBuiltin statement = false ∧
      ((selectsRecords name = true ∧ linked.any Model.hasRelationFields = true ∧
          statement = Import.includeSchema options.inputTypePath modelType) ∨
        ∃ arg ∈ args, ∃ type ∈ arg.typeNames,
          statement = Import.schema options.inputTypePath type) := by
  have hincludes : ∀ (condition : Bool) (other : String),
      statement ∈ Model.statementIf condition other ↔ condition = true ∧ statement = other := by
    intro condition other
    cases condition <;> simp [Model.statementIf]
  simp only [importsOf, OrderedSet.toList_exclude, List.mem_filter, Bool.not_eq_true',
    OrderedSet.mem_toList_ofList, List.mem_append, hincludes, Bool.and_eq_true, and_assoc,
    List.mem_flatMap, List.mem_map, eq_comm (b := statement)]
  exact and_comm

/-- The include schema of a model type is the schema of the type that is called after it. -/
theorem includeSchema_eq_schema_iff {directory modelType type : String} :
    Import.includeSchema directory modelType = Import.schema directory type ↔
      type = modelType ++ "Include" :=
  ⟨fun h => (Import.schema_inj h).symm, fun h => h ▸ rfl⟩

/-- The imports of an action are those of its name, model type, linked model and arguments. -/
theorem imports_of_build {options : Options} {verbs : List String} {models : List Model}
    {source : Document.Operation} {a : Action}
    (h : (build options verbs models source).outcome = .ok a) :
    a.imports = importsOf options a.name a.modelType a.linkedModel a.args := by
  obtain ⟨names, verb, -, -, rfl⟩ := build_eq_ok_iff.1 h
  rfl

variable {options : Options} {verbs : List String} {document : Document} {g : Graph} {a : Action}

/-- Unless an argument accepts a type of that name, an action imports the include schema of its
model type exactly when it gives records and the first model whose name occurs in the model type
has relations. Where containing names come first and the model type is a model, it is that model
that has them. -/
theorem includeSchema_mem_imports_iff
    (h : (Graph.ofDocument options verbs document).outcome = .ok g) (ha : a ∈ g.actions)
    (hargs : ∀ arg ∈ a.args, a.modelType ++ "Include" ∉ arg.typeNames) :
    (Import.includeSchema options.inputTypePath a.modelType ∈ a.imports.toList ↔
      Import.mentionsBuiltin (Import.includeSchema options.inputTypePath a.modelType) = false ∧
      a.includesRecords = true ∧
      ∃ i m, LinksTo g.datamodel.models a.modelType i m ∧ m.hasRelationFields = true) ∧
    (Import.includeSchema options.inputTypePath a.modelType ∈ a.imports.toList →
      ((g.datamodel.models.map Model.name).Pairwise fun earlier later =>
        Text.occurs earlier later = false) →
      (∃ m ∈ g.datamodel.models, m.name = a.modelType) →
      ∃ m ∈ g.datamodel.models, m.name = a.modelType ∧ m.hasRelationFields = true) := by
  obtain ⟨source, hbuild⟩ := Graph.exists_build_of_mem_actions h ha
  have hrelations : a.linkedModel.any Model.hasRelationFields = true ↔
      ∃ i m, LinksTo g.datamodel.models a.modelType i m ∧ m.hasRelationFields = true := by
    simp only [Option.any_eq_true, linkedModel_eq_some_iff_of_build hbuild]
    constructor
    · rintro ⟨m, ⟨i, hm⟩, hrelation⟩
      exact ⟨i, m, hm, hrelation⟩
    · rintro ⟨i, m, hm, hrelation⟩
      exact ⟨m, ⟨i, hm⟩, hrelation⟩
  have hiff : Import.includeSchema options.inputTypePath a.modelType ∈ a.imports.toList ↔
      Import.mentionsBuiltin (Import.includeSchema options.inputTypePath a.modelType) = false ∧
        a.includesRecords = true ∧
        ∃ i m, LinksTo g.datamodel.models a.modelType i m ∧ m.hasRelationFields = true := by
    rw [← hrelations, imports_of_build hbuild, mem_importsOf_iff]
    refine and_congr_right fun _ => ?_
    -- The arguments give no such statement: it would name a type that none of them accepts.
    rw [or_iff_left]
    · exact ⟨fun ⟨hselects, hlinked, _⟩ => ⟨hselects, hlinked⟩,
        fun ⟨hselects, hlinked⟩ => ⟨hselects, hlinked, rfl⟩⟩
    · rintro ⟨arg, harg, type, htype, hstatement⟩
      exact hargs arg harg (includeSchema_eq_schema_iff.1 hstatement ▸ htype)
  refine ⟨hiff, fun himport hfirst ⟨m, hm, hname⟩ => ?_⟩
  obtain ⟨-, -, i, linked, hlinked, hrelation⟩ := hiff.1 himport
  obtain ⟨j, hj⟩ := List.getElem?_of_mem hm
  have hself : LinksTo g.datamodel.models a.modelType j m :=
    hname ▸ LinksTo.of_containing_first hfirst hj
  obtain ⟨-, rfl⟩ := hlinked.unique hself
  exact ⟨linked, hm, hname, hrelation⟩

/-- A compound name that is declared first leads to its own model. -/
theorem includeSchema_leads_to_userProfile :
    ∃ g a, (Graph.ofDocument .default Verb.all
        (.ofQueries [.plain "UserProfile" [.plain "user" .object "User" []], .plain "User" []]
          [{ Document.Operation.plain "findManyUserProfile" "UserProfile" with
            args := [.plain "where" ["UserProfileWhereInput"]] }])).outcome = .ok g ∧
      a ∈ g.actions ∧
      Import.includeSchema Options.default.inputTypePath a.modelType ∈ a.imports.toList ∧
      ∃ m ∈ g.datamodel.models, m.name = a.modelType ∧ m.hasRelationFields = true := by
  obtain ⟨g, hg, hcheck⟩ := exists_outcome_of_any
    (x := Graph.ofDocument .default Verb.all
      (.ofQueries [.plain "UserProfile" [.plain "user" .object "User" []], .plain "User" []]
        [{ Document.Operation.plain "findManyUserProfile" "UserProfile" with
          args := [.plain "where" ["UserProfileWhereInput"]] }]))
    (p := fun g => decide (g.datamodel.models.map Model.name = ["UserProfile", "User"]) &&
      g.actions.any fun a => decide (a.modelType = "UserProfile" ∧
        a.args.map Arg.typeNames = [["UserProfileWhereInput"]] ∧
        Import.includeSchema Options.default.inputTypePath "UserProfile" ∈ a.imports.toList))
    (by decide)
  rw [Bool.and_eq_true, decide_eq_true_eq, List.any_eq_true] at hcheck
  obtain ⟨hnames, a, ha, hchecked⟩ := hcheck
  obtain ⟨hmodelType, htypes, himport⟩ := of_decide_eq_true hchecked
  have hargs : ∀ arg ∈ a.args, a.modelType ++ "Include" ∉ arg.typeNames := by
    intro arg harg
    have htype : arg.typeNames ∈ a.args.map Arg.typeNames := List.mem_map_of_mem harg
    rw [htypes, List.mem_singleton] at htype
    rw [htype, hmodelType]
    decide
  obtain ⟨hiff, hleads⟩ := includeSchema_mem_imports_iff hg ha hargs
  rw [hmodelType] at hiff hleads
  refine ⟨g, a, hg, ha, by rw [hmodelType]; exact himport, ?_⟩
  rw [hmodelType]
  refine hleads himport (by rw [hnames]; decide) ?_
  have hmem : "UserProfile" ∈ g.datamodel.models.map Model.name := by simp [hnames]
  exact List.mem_map.1 hmem

/-- An import can lead nowhere: the actions of a compound name that is declared later are linked to
the model with the shorter name, and its relations count for them. -/
theorem includeSchema_not_always_leads :
    ¬ ∀ options document g, (Graph.ofDocument options Verb.all document).outcome = .ok g →
      ∀ a ∈ g.actions, (∀ arg ∈ a.args, a.modelType ++ "Include" ∉ arg.typeNames) →
        Import.includeSchema options.inputTypePath a.modelType ∈ a.imports.toList →
          ∃ m ∈ g.datamodel.models, m.name = a.modelType ∧ m.hasRelationFields = true := by
  intro hall
  obtain ⟨g, hg, hcheck⟩ := exists_outcome_of_any
    (x := Graph.ofDocument .default Verb.all
      (.ofQueries [.plain "User" [.plain "posts" .object "Post" []], .plain "UserProfile" []]
        [.plain "findManyUserProfile" "UserProfile"]))
    (p := fun g => g.actions.any fun a => decide (a.args.length = 0 ∧
      Import.includeSchema Options.default.inputTypePath a.modelType ∈ a.imports.toList ∧
      ∀ m ∈ g.datamodel.models, m.name = a.modelType → m.hasRelationFields = false))
    (by decide)
  obtain ⟨a, ha, hchecked⟩ := List.any_eq_true.1 hcheck
  obtain ⟨hargs, himport, hnone⟩ := of_decide_eq_true hchecked
  obtain ⟨m, hm, hname, hrelation⟩ := hall _ _ g hg a ha
    (by simp [List.length_eq_zero_iff.1 hargs]) himport
  rw [hnone m hm hname] at hrelation
  cases hrelation

end ModelGraph.Action
