import ModelGraph.Action.Output
import ModelGraph.Proofs.Action.Linking

/-!
# Arguments that are made anew

When fields are left out, the write arguments of an action are taken out of the client's type and
some of them are declared again. `redeclared_of_omitted` says which: all those that were taken out,
in the same order, but for the ones whose name tells of deleting only.
-/

namespace ModelGraph

namespace Arg

/-- An argument that is declared again is one that was taken out. -/
theorem isWrite_of_isRemade {arg : Arg} (h : arg.isRemade = true) : arg.isWrite = true := by
  obtain ⟨word, hword, hoccurs⟩ := List.any_eq_true.1 h
  have hwords : remadeWords ⊆ writeWords := by decide
  exact List.any_eq_true.2 ⟨word, hwords hword, hoccurs⟩

/-- A write argument is declared again or tells of deleting. -/
theorem isRemade_or_delete_of_isWrite {arg : Arg} (h : arg.isWrite = true) :
    arg.isRemade = true ∨ Text.occurs "delete" arg.name = true := by
  obtain ⟨word, hword, hoccurs⟩ := List.any_eq_true.1 h
  have hwords : ∀ word ∈ writeWords, word ∈ remadeWords ∨ word = "delete" := by decide
  rcases hwords word hword with hremade | rfl
  · exact Or.inl (List.any_eq_true.2 ⟨word, hremade, hoccurs⟩)
  · exact Or.inr hoccurs

/-- An argument that tells of deleting is a write argument. -/
theorem isWrite_of_delete {arg : Arg} (h : Text.occurs "delete" arg.name = true) :
    arg.isWrite = true :=
  List.any_eq_true.2 ⟨"delete", by decide, h⟩

end Arg

namespace Action

/-- The arguments that are taken out of the client's type. -/
def omittedArgs (a : Action) : List Arg :=
  a.args.filter Arg.isWrite

/-- The arguments that are declared again. -/
def redeclaredArgs (a : Action) : List Arg :=
  a.args.filter Arg.isRemade

/-- What is declared again is what was taken out, without the arguments that are not made anew. -/
theorem redeclaredArgs_eq_filter (a : Action) :
    a.redeclaredArgs = a.omittedArgs.filter Arg.isRemade := by
  rw [redeclaredArgs, omittedArgs, List.filter_filter]
  refine List.filter_congr fun arg _ => ?_
  cases hremade : arg.isRemade with
  | true => simp [Arg.isWrite_of_isRemade hremade]
  | false => rfl

/-- Everything that was taken out is declared again exactly when every argument that tells of
deleting tells of creating, updating, upserting or data as well. -/
theorem redeclaredArgs_eq_omittedArgs_iff (a : Action) :
    a.redeclaredArgs = a.omittedArgs ↔
      ∀ arg ∈ a.args, Text.occurs "delete" arg.name = true → arg.isRemade = true := by
  rw [redeclaredArgs_eq_filter, List.filter_eq_self]
  constructor
  · intro hall arg harg hdelete
    exact hall arg (List.mem_filter.2 ⟨harg, Arg.isWrite_of_delete hdelete⟩)
  · intro hall arg homitted
    obtain ⟨harg, hwrite⟩ := List.mem_filter.1 homitted
    rcases Arg.isRemade_or_delete_of_isWrite hwrite with hremade | hdelete
    · exact hremade
    · exact hall arg harg hdelete

/-- The union lists the names of the arguments that are taken out. The custom type declares those of
them again, in the same order, that tell of creating, updating, upserting or data: each with its
name, the mark of an optional argument, and its types. The two sequences of names are equal exactly
when no argument tells of deleting only. -/
theorem redeclared_of_omitted (a : Action) :
    a.omitUnion = " | ".intercalate (a.omittedArgs.map fun arg => "\"" ++ arg.name ++ "\"") ∧
    a.customArgs = ", ".intercalate (a.redeclaredArgs.map fun arg =>
      arg.name ++ (if arg.source.isRequired then "" else "?") ++ ": " ++
        " | ".intercalate (arg.source.inputTypes.map fun t =>
          "z.infer<typeof " ++ t.type ++ "Schema>" ++ (if t.isList then "[]" else ""))) ∧
    (a.redeclaredArgs = a.omittedArgs.filter fun arg =>
      ["create", "update", "upsert", "data"].any fun word => Text.occurs word arg.name) ∧
    (a.redeclaredArgs.map Arg.name = a.omittedArgs.map Arg.name ↔
      ∀ arg ∈ a.args, Text.occurs "delete" arg.name = true →
        ∃ word ∈ ["create", "update", "upsert", "data"], Text.occurs word arg.name = true) := by
  refine ⟨rfl, rfl, redeclaredArgs_eq_filter a, ?_⟩
  have hremade : ∀ arg : Arg, arg.isRemade = true ↔
      ∃ word ∈ ["create", "update", "upsert", "data"], Text.occurs word arg.name = true :=
    fun _ => List.any_eq_true
  simp only [← hremade]
  rw [← redeclaredArgs_eq_omittedArgs_iff]
  constructor
  · intro hnames
    have hlength := congrArg List.length hnames
    rw [List.length_map, List.length_map, redeclaredArgs_eq_filter] at hlength
    rw [redeclaredArgs_eq_filter]
    exact List.filter_eq_self.2 (List.length_filter_eq_length_iff.1 hlength)
  · intro hsame
    rw [hsame]

/-- An argument that tells of deleting is taken out and not declared again. -/
theorem not_redeclared_of_delete :
    ¬ ∀ options models source a, (build options Verb.all models source).outcome = .ok a →
      a.needsCustomArgs = true → a.redeclaredArgs.map Arg.name = a.omittedArgs.map Arg.name := by
  intro hall
  obtain ⟨models, source, a, hbuild, hcheck⟩ := @Graph.exists_build_of_any .default Verb.all
    (.ofQueries [.plain "User" [.plain "password" .scalar "String" ["input"]]]
      [{ Document.Operation.plain "updateOneUser" "User" with
        args := [.plain "data" ["UserUpdateInput"], .plain "delete" ["Boolean"]] }])
    (fun a => decide (a.needsCustomArgs = true ∧
      a.omittedArgs.map Arg.name = ["data", "delete"] ∧ a.redeclaredArgs.map Arg.name = ["data"]))
    (by decide)
  obtain ⟨hneeds, homitted, hredeclared⟩ := of_decide_eq_true hcheck
  have hnames := hall _ _ _ _ hbuild hneeds
  rw [homitted, hredeclared] at hnames
  exact absurd hnames (by decide)

end Action

end ModelGraph
