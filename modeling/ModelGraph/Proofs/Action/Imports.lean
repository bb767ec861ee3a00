import ModelGraph.Proofs.Action.Include
import ModelGraph.Proofs.Model.Imports

/-!
# The imports of an action

An action imports the schemas of types: perhaps that of the include schema, and then those of the
types that its arguments accept. Statements of different types are different, so what is said of
the types holds of the statements: `imports_follow_args` lists and counts the imports by the types
of the arguments.
-/

namespace ModelGraph

/-- A document with one query, whose arguments repeat a type and have one that is built in. -/
def Document.searchesUsers : Document :=
  .ofQueries [.plain "User" [.plain "posts" .object "Post" []]]
    [{ Operation.plain "findManyUser" "User" with
      args := [.plain "where" ["UserWhere"], .plain "take" ["Int"],
        .plain "orderBy" ["UserOrder", "UserWhere", "UserOrder"]] }]

namespace Action

open Traced

/-! ## The types that are asked for -/

/-- The names of the types that the arguments of an action accept, argument by argument. -/
def acceptedTypes (a : Action) : List String :=
  a.args.flatMap Arg.typeNames

/-- The name of the type that has the include schema of an action. -/
def includeType (a : Action) : String :=
  a.modelType ++ "Include"

/-- An action asks for the include schema when its name is not that of a write on many records and
its linked model has relations. -/
def AsksForInclude (a : Action) : Prop :=
  (∀ word ∈ bulkWords, Text.occurs word a.name = false) ∧
    ∃ m, a.linkedModel = some m ∧ m.hasRelationFields = true

theorem asksForInclude_iff {a : Action} :
    (selectsRecords a.name && a.linkedModel.any Model.hasRelationFields) = true ↔
      a.AsksForInclude := by
  simp [AsksForInclude, selectsRecords, Text.mentionsAny, Option.any_eq_true]

instance (a : Action) : Decidable a.AsksForInclude :=
  decidable_of_iff _ asksForInclude_iff

/-- The types whose schemas an action asks for. -/
def requestedTypes (a : Action) : List String :=
  (if a.AsksForInclude then [a.includeType] else []) ++ a.acceptedTypes

/-- Whether the schema of a type is imported when it is asked for. -/
def isImportable (options : Options) (type : String) : Bool :=
  !Import.mentionsBuiltin (Import.schema options.inputTypePath type)

/-- The types of the arguments of an action whose schemas are imported, each where it first
comes. -/
def importedTypes (options : Options) (a : Action) : List String :=
  a.acceptedTypes.eraseDups.filter (isImportable options)

/-- The import of the include schema is asked for and stays. -/
def EmitsInclude (options : Options) (a : Action) : Prop :=
  a.AsksForInclude ∧ isImportable options a.includeType = true

instance (options : Options) (a : Action) : Decidable (a.EmitsInclude options) :=
  inferInstanceAs (Decidable (_ ∧ _))

variable {options : Options} {a : Action}

/-- Asking for the include schema puts its type in front of the others. -/
theorem eraseDups_requestedTypes (h : a.AsksForInclude) :
    a.requestedTypes.eraseDups =
      a.includeType :: a.acceptedTypes.eraseDups.filter fun type => type != a.includeType := by
  rw [requestedTypes, if_pos h, List.singleton_append, List.eraseDups_cons,
    OrderedSet.eraseDups_filter]
  rfl

/-- Of the types that are asked for, these are imported. -/
theorem filter_requestedTypes (options : Options) (a : Action) :
    a.requestedTypes.eraseDups.filter (isImportable options) =
      if a.EmitsInclude options then
        a.includeType :: (a.importedTypes options).filter fun type => type != a.includeType
      else a.importedTypes options := by
  by_cases hasks : a.AsksForInclude
  · rw [eraseDups_requestedTypes hasks, importedTypes]
    by_cases himportable : isImportable options a.includeType = true
    · rw [if_pos ⟨hasks, himportable⟩, List.filter_cons_of_pos himportable, List.filter_filter,
        List.filter_filter]
      exact congrArg _ (List.filter_congr fun type _ => Bool.and_comm ..)
    · -- The type of the include schema is left out anyway.
      rw [if_neg fun h => himportable h.2, List.filter_cons_of_neg himportable, List.filter_filter]
      refine List.filter_congr fun type _ => ?_
      by_cases hsame : type = a.includeType
      · simp [hsame, himportable]
      · simp [hsame]
  · rw [if_neg fun h => hasks h.1, requestedTypes, if_neg hasks, List.nil_append, importedTypes]

/-- A type that an action asks for first and that an argument accepts as well counts once. -/
theorem length_filter_requestedTypes (options : Options) (a : Action) :
    (a.requestedTypes.eraseDups.filter (isImportable options)).length =
      (a.importedTypes options).length +
        if a.EmitsInclude options ∧ a.includeType ∉ a.acceptedTypes then 1 else 0 := by
  rw [filter_requestedTypes]
  by_cases hemits : a.EmitsInclude options
  · have hnodup : (a.importedTypes options).Nodup := (OrderedSet.nodup_eraseDups _).filter _
    have hmem : a.includeType ∈ a.importedTypes options ↔ a.includeType ∈ a.acceptedTypes := by
      simp [importedTypes, hemits.2]
    rw [if_pos hemits, List.length_cons, ← hnodup.erase_eq_filter]
    -- The type comes first in any case; behind, it is missed only where an argument accepts it.
    by_cases haccepted : a.includeType ∈ a.acceptedTypes
    · have hpos := List.length_pos_of_mem (hmem.2 haccepted)
      rw [List.length_erase_of_mem (hmem.2 haccepted), if_neg fun h => h.2 haccepted]
      omega
    · rw [List.erase_of_not_mem (mt hmem.1 haccepted), if_pos ⟨hemits, haccepted⟩]
  · rw [if_neg hemits, if_neg fun h => hemits h.1, Nat.add_zero]

/-! ## The statements that are imported -/

variable {verbs : List String} {models : List Model} {source : Document.Operation}

/-- The imports of an action are the schemas of the types that are asked for and imported. -/
theorem imports_toList_of_build (h : (build options verbs models source).outcome = .ok a) :
    a.imports.toList =
      (a.requestedTypes.eraseDups.filter (isImportable options)).map
        (Import.schema options.inputTypePath) := by
  have hincludes : Model.statementIf
      (selectsRecords a.name && a.linkedModel.any Model.hasRelationFields)
      (Import.includeSchema options.inputTypePath a.modelType) =
        (if a.AsksForInclude then [a.includeType] else []).map
          (Import.schema options.inputTypePath) := by
    rw [Model.statementIf_eq asksForInclude_iff, apply_ite (List.map _)]
    rfl
  have hinputs : (a.args.flatMap fun arg =>
      arg.typeNames.map (Import.schema options.inputTypePath)) =
        a.acceptedTypes.map (Import.schema options.inputTypePath) := by
    rw [acceptedTypes, List.map_flatMap]
  rw [imports_of_build h, importsOf, OrderedSet.toList_exclude, OrderedSet.toList_ofList,
    hincludes, hinputs, ← List.map_append, OrderedSet.eraseDups_map fun _ _ => Import.schema_inj,
    List.filter_map]
  rfl

/-- An action imports the include schema of its model type, if it asks for it, and then the schemas
of the types that its arguments accept, each where its type first comes; what mentions a schema that
is built in is left out, and nothing else is imported. Different types have different statements, so
there are as many as different types, and one more where only the action asks for the include
schema. -/
theorem imports_follow_args (h : (build options verbs models source).outcome = .ok a) :
    a.imports.toList.Nodup ∧
    (∀ statement, statement ∈ a.imports.toList ↔
      (Text.occurs "IntSchema" statement = false ∧ Text.occurs "BooleanSchema" statement = false) ∧
      ((a.AsksForInclude ∧
          statement = Import.includeSchema options.inputTypePath a.modelType) ∨
        ∃ arg ∈ a.args, ∃ type ∈ arg.typeNames,
          statement = Import.schema options.inputTypePath type)) ∧
    a.imports.toList =
      (if a.EmitsInclude options then
        Import.includeSchema options.inputTypePath a.modelType ::
          ((a.importedTypes options).filter fun type => type != a.includeType).map
            (Import.schema options.inputTypePath)
      else (a.importedTypes options).map (Import.schema options.inputTypePath)) ∧
    (∀ left right, left ≠ right →
      Import.schema options.inputTypePath left ≠ Import.schema options.inputTypePath right) ∧
    a.imports.size = (a.importedTypes options).length +
      if a.EmitsInclude options ∧ a.includeType ∉ a.acceptedTypes then 1 else 0 := by
  have hlist := imports_toList_of_build h
  refine ⟨?_, fun statement => ?_, ?_, fun left right hne heq => hne (Import.schema_inj heq), ?_⟩
  · rw [hlist]
    exact ((OrderedSet.nodup_eraseDups _).filter _).map fun _ _ => Import.schema_inj
  · rw [imports_of_build h, mem_importsOf_iff, ← asksForInclude_iff]
    simp [Import.mentionsBuiltin, Import.builtinSchemas, Text.mentionsAny, and_assoc]
  · rw [hlist, filter_requestedTypes, apply_ite (List.map _), List.map_cons]
    rfl
  · rw [OrderedSet.size, hlist, List.length_map, length_filter_requestedTypes]

/-- An action with repeated types, one of them a built-in one, imports each schema once. -/
theorem imports_follow_args_of_findManyUser :
    ∃ g a, (Graph.ofDocument .default Verb.all .searchesUsers).outcome = .ok g ∧
      a ∈ g.actions ∧ a.imports.size = 3 ∧
      a.imports.toList =
        ["import \x7b UserIncludeSchema \x7d from '../inputTypeSchemas/UserIncludeSchema'",
          "import \x7b UserWhereSchema \x7d from '../inputTypeSchemas/UserWhereSchema'",
          "import \x7b UserOrderSchema \x7d from '../inputTypeSchemas/UserOrderSchema'"] := by
  obtain ⟨g, hg, hcheck⟩ := exists_outcome_of_any
    (x := Graph.ofDocument .default Verb.all .searchesUsers)
    (p := fun g => g.actions.any fun a => decide (a.EmitsInclude .default ∧ a.modelType = "User" ∧
      a.importedTypes .default = ["UserWhere", "UserOrder"] ∧ a.includeType ∉ a.acceptedTypes))
    (by decide)
  obtain ⟨a, ha, hchecked⟩ := List.any_eq_true.1 hcheck
  obtain ⟨hemits, hmodelType, htypes, hnone⟩ := of_decide_eq_true hchecked
  obtain ⟨source, hbuild⟩ := Graph.exists_build_of_mem_actions hg ha
  obtain ⟨-, -, hlist, -, hsize⟩ := imports_follow_args hbuild
  rw [htypes, if_pos ⟨hemits, hnone⟩] at hsize
  rw [if_pos hemits, htypes, includeType, hmodelType] at hlist
  exact ⟨g, a, hg, ha, hsize, hlist.trans (by decide)⟩

end Action

end ModelGraph
