import ModelGraph.Options.Read
import ModelGraph.Proofs.Action.Imports

/-!
# The directory in the imports of an action

Under two options that differ in the directory of the input types alone, an action is built with
the same data but its imports. These name the same schemas in the same order, unless exactly one
of the directories mentions a built-in schema itself: then none of the imports from there is left
(`imports_redirected_iff`).
-/

namespace ModelGraph

namespace Import

/-- Two statements import the schema of one type, each from its own directory. -/
def Redirects (left right : String) (x y : String) : Prop :=
  ∃ type, x = schema left type ∧ y = schema right type

/-- The words that name a built-in schema have no character that parts a statement, and they are
not in what every statement has. -/
theorem builtinSchemas_apart : ∀ word ∈ builtinSchemas,
    ' ' ∉ word.toList ∧ '/' ∉ word.toList ∧ Text.occurs word "import \x7b" = false ∧
      Text.occurs word "\x7d from '.." = false ∧ Text.occurs word "'" = false ∧
      Text.reachesInto word.toList "'".toList = false := by
  decide

/-- A built-in schema is mentioned by an import of a schema where the name of the schema or the
directory mentions it. -/
theorem occurs_schema_iff {word : String} (hword : word ∈ builtinSchemas)
    (directory type : String) :
    Text.occurs word (schema directory type) = true ↔
      Text.occurs word (type ++ "Schema") = true ∨ Text.occurs word directory = true := by
  obtain ⟨hspace, hslash, hfront, hmiddle, hquote, hreach⟩ := builtinSchemas_apart word hword
  have htext : (schema directory type).toList =
      "import \x7b".toList ++ ' ' :: ((type ++ "Schema").toList ++ ' ' ::
        ("\x7d from '..".toList ++ '/' :: (directory.toList ++ '/' ::
          ((type ++ "Schema").toList ++ "'".toList)))) := by
    simp [schema, named]
  rw [Text.occurs_iff, htext, Text.infix_append_cons_iff hspace, Text.infix_append_cons_iff hspace,
    Text.infix_append_cons_iff hslash, Text.infix_append_cons_iff hslash,
    Text.infix_append_iff_of_not_reachesInto hreach]
  simp only [← Text.occurs_iff, hfront, hmiddle, hquote, Bool.false_eq_true, false_or, or_false]
  rw [← or_assoc, or_right_comm, or_self]

/-- Whether an import of a schema mentions a built-in one is said by the name of the schema and by
the directory. -/
theorem mentionsBuiltin_schema (directory type : String) :
    mentionsBuiltin (schema directory type) =
      (mentionsBuiltin (type ++ "Schema") || mentionsBuiltin directory) := by
  rw [Bool.eq_iff_iff, Bool.or_eq_true]
  simp only [mentionsBuiltin, Text.mentionsAny, List.any_eq_true, ← exists_or, ← and_or_left]
  exact exists_congr fun word => and_congr_right fun hword => occurs_schema_iff hword _ _

end Import

namespace Action

/-- The types whose schemas an action asks for and that are not built in themselves, each where it
first comes. -/
def lastingTypes (a : Action) : List String :=
  a.requestedTypes.eraseDups.filter fun type => !Import.mentionsBuiltin (type ++ "Schema")

variable {options : Options} {verbs : List String} {models : List Model}
  {source : Document.Operation} {a : Action}

/-- The imports of an action are the schemas of its lasting types, and there are none at all when
the directory mentions a built-in schema. -/
theorem imports_toList_eq_lastingTypes
    (h : (build options verbs models source).outcome = .ok a) :
    a.imports.toList =
      if Import.mentionsBuiltin options.inputTypePath then []
      else a.lastingTypes.map (Import.schema options.inputTypePath) := by
  have himportable : ∀ type, isImportable options type =
      (!Import.mentionsBuiltin (type ++ "Schema") &&
        !Import.mentionsBuiltin options.inputTypePath) := by
    intro type
    rw [isImportable, Import.mentionsBuiltin_schema, Bool.not_or]
  rw [imports_toList_of_build h, funext himportable, lastingTypes]
  cases Import.mentionsBuiltin options.inputTypePath with
  | true => simp
  | false => simp

/-- What is built under options with another directory differs in the imports alone. -/
theorem exists_build_of_directory (h : (build options verbs models source).outcome = .ok a)
    (directory : String) :
    ∃ b, (build { options with inputTypePath := directory } verbs models source).outcome = .ok b ∧
      b = { a with imports := b.imports } := by
  obtain ⟨names, verb, hforms, hverb, rfl⟩ := build_eq_ok_iff.1 h
  exact ⟨_, build_eq_ok_iff.2 ⟨names, verb, hforms, hverb, rfl⟩, rfl⟩

/-- Under another directory an action is built just as well, and only its imports differ. They
correspond one by one, each from the one directory to that of the same schema from the other, where
both directories mention a built-in schema or neither does, and where the action has no lasting
types; in all other cases there are not even as many of them. -/
theorem imports_redirected_iff (h : (build options verbs models source).outcome = .ok a)
    (directory : String) :
    ∃ b, (build { options with inputTypePath := directory } verbs models source).outcome = .ok b ∧
      b = { a with imports := b.imports } ∧
      (List.Forall₂ (Import.Redirects options.inputTypePath directory)
          a.imports.toList b.imports.toList ↔
        (Import.mentionsBuiltin options.inputTypePath = Import.mentionsBuiltin directory ∨
          a.lastingTypes = [])) ∧
      (a.imports.size = b.imports.size ↔
        (Import.mentionsBuiltin options.inputTypePath = Import.mentionsBuiltin directory ∨
          a.lastingTypes = [])) := by
  obtain ⟨b, hbuild, hsame⟩ := exists_build_of_directory h directory
  have hleft := imports_toList_eq_lastingTypes h
  have hright := imports_toList_eq_lastingTypes hbuild
  have htypes : b.lastingTypes = a.lastingTypes := by
    rw [hsame]
    rfl
  rw [htypes] at hright
  have hcorrespond : Import.mentionsBuiltin options.inputTypePath =
      Import.mentionsBuiltin directory ∨ a.lastingTypes = [] →
        List.Forall₂ (Import.Redirects options.inputTypePath directory)
          a.imports.toList b.imports.toList := by
    rintro (hmention | hnone)
    · rw [hleft, hright, hmention]
      split
      · exact .nil
      · rw [List.forall₂_map_left_iff, List.forall₂_map_right_iff, List.forall₂_same]
        exact fun type _ => ⟨type, rfl, rfl⟩
    · rw [hleft, hright, hnone, List.map_nil, List.map_nil, ite_self, ite_self]
      exact .nil
  have hsizes : a.imports.size = b.imports.size →
      Import.mentionsBuiltin options.inputTypePath = Import.mentionsBuiltin directory ∨
        a.lastingTypes = [] := by
    intro hsize
    rw [OrderedSet.size, OrderedSet.size, hleft, hright, apply_ite List.length,
      apply_ite List.length, List.length_map, List.length_map, List.length_nil] at hsize
    split at hsize <;> split at hsize
    · next hl hr => exact .inl (hl.trans hr.symm)
    · exact .inr (List.length_eq_zero_iff.1 hsize.symm)
    · exact .inr (List.length_eq_zero_iff.1 hsize)
    · next hl hr => exact .inl ((eq_false_of_ne_true hl).trans (eq_false_of_ne_true hr).symm)
  exact ⟨b, hbuild, hsame, ⟨fun hall => hsizes hall.length_eq, hcorrespond⟩,
    ⟨hsizes, fun hcondition => (hcorrespond hcondition).length_eq⟩⟩

/-- Under the options when nothing is said, the search for users imports three schemas. -/
theorem exists_build_searchesUsers :
    ∃ models source a, (build .default Verb.all models source).outcome = .ok a ∧
      a.imports.size = 3 := by
  obtain ⟨models, source, a, hbuild, hsize⟩ := @Graph.exists_build_of_any .default Verb.all
    .searchesUsers (fun a => decide (a.imports.size = 3)) (by decide)
  exact ⟨models, source, a, hbuild, of_decide_eq_true hsize⟩

/-- The imports of an action that searches users come from another directory one by one. -/
theorem imports_redirected_of_findManyUser :
    ∃ models source a b, (build .default Verb.all models source).outcome = .ok a ∧
      (build { Options.default with inputTypePath := "inputs" } Verb.all models source).outcome =
        .ok b ∧
      a.imports.size = 3 ∧ b.imports.size = 3 ∧
      List.Forall₂ (Import.Redirects "inputTypeSchemas" "inputs")
        a.imports.toList b.imports.toList := by
  obtain ⟨models, source, a, hbuild, hsize⟩ := exists_build_searchesUsers
  obtain ⟨b, hb, -, hcorrespond, hsizes⟩ := imports_redirected_iff hbuild "inputs"
  have hmention : Import.mentionsBuiltin Options.default.inputTypePath =
      Import.mentionsBuiltin "inputs" := by decide
  exact ⟨models, source, a, b, hbuild, hb, hsize, (hsizes.2 (.inl hmention)).symm.trans hsize,
    hcorrespond.2 (.inl hmention)⟩

/-- Options can differ in the directory of the input types alone and the imports of an action in
their number: all of them are missing under a directory that mentions a built-in schema. -/
theorem imports_not_always_redirected :
    ¬ ∀ raw raw' options directory, Options.ofValue raw none = .ok options →
      Options.ofValue raw' none = .ok { options with inputTypePath := directory } →
      ∀ models source a b, (build options Verb.all models source).outcome = .ok a →
        (build { options with inputTypePath := directory } Verb.all models source).outcome =
          .ok b →
        a.imports.size = b.imports.size := by
  intro hall
  obtain ⟨models, source, a, hbuild, hsize⟩ := exists_build_searchesUsers
  obtain ⟨b, hb, -⟩ := exists_build_of_directory hbuild "IntSchemas"
  have hsame : a.imports.size = b.imports.size :=
    hall (.record []) (.record [("input_type_path", .text "IntSchemas")]) .default "IntSchemas"
      rfl rfl models source a b hbuild hb
  have hnone : b.imports.toList = [] := by
    rw [imports_toList_eq_lastingTypes hb, if_pos (by decide)]
  rw [hsize, OrderedSet.size, hnone] at hsame
  cases hsame

end Action

end ModelGraph
