import ModelGraph.Proofs.Action.CustomArgs
import ModelGraph.Proofs.Directive.Marker
import ModelGraph.Proofs.Text.Joined

/-!
# Reading the declared arguments back

The arguments of an action that are declared again are written one behind another, each with its
accepted types one behind another. `customArgs_eq_iff` says that nothing is lost: when the names are
made of word characters, two actions have the same text exactly when the same arguments are declared
again, in the same order, each with the same name, mark and types. `Text.Readable.joined` is used
twice for it, for the types of an argument and for the arguments.
-/

namespace ModelGraph

namespace Text

/-- Whether all characters of a name are word characters, as those of an identifier are. -/
def OfWordChars (name : String) : Prop :=
  ∀ c ∈ name.toList, isWord c = true

instance (name : String) : Decidable (OfWordChars name) :=
  decidable_of_iff (name.toList.all isWord = true) List.all_eq_true

theorem OfWordChars.append {name name' : String} (h : OfWordChars name) (h' : OfWordChars name') :
    OfWordChars (name ++ name') := by
  intro c hc
  rw [String.toList_append] at hc
  exact (List.mem_append.1 hc).elim (h c) (h' c)

/-- A name of word characters is read up to the first other character. -/
theorem OfWordChars.unique {name name' : String} {c d : Char} {s t : List Char}
    (hname : OfWordChars name) (hname' : OfWordChars name') (hc : isWord c = false)
    (hd : isWord d = false) (h : name.toList ++ c :: s = name'.toList ++ d :: t) :
    name = name' ∧ c = d ∧ s = t := by
  obtain ⟨hnames, hrest⟩ := Marker.run_unique hname hname' hc hd h
  exact ⟨String.toList_inj.1 hnames, hrest⟩

end Text

/-! ## Declarations -/

/-- An argument as it is declared again: its name, whether it is required, and the name of each
accepted type with whether a list of it is accepted. -/
structure Arg.Declaration where
  name : String
  isRequired : Bool
  types : List (String × Bool)
  deriving DecidableEq, Repr

namespace Arg

/-- What is declared of an argument. -/
def declaration (arg : Arg) : Declaration where
  name := arg.name
  isRequired := arg.source.isRequired
  types := arg.source.inputTypes.map fun t => (t.type, t.isList)

namespace Declaration

/-- An accepted type as it is written. -/
def typeText (t : String × Bool) : String :=
  "z.infer<typeof " ++ t.1 ++ "Schema>" ++ (if t.2 then "[]" else "")

/-- The declaration as it is written. -/
def text (d : Declaration) : String :=
  d.name ++ (if d.isRequired then "" else "?") ++ ": " ++ " | ".intercalate (d.types.map typeText)

/-- The name of the argument and the names of its types are made of word characters. -/
structure NamedByWords (d : Declaration) : Prop where
  name : Text.OfWordChars d.name
  types : ∀ t ∈ d.types, Text.OfWordChars t.1

instance (d : Declaration) : Decidable d.NamedByWords :=
  decidable_of_iff (Text.OfWordChars d.name ∧ ∀ t ∈ d.types, Text.OfWordChars t.1)
    ⟨fun ⟨name, types⟩ => ⟨name, types⟩, fun h => ⟨h.name, h.types⟩⟩

/-- A type is a run of word characters between two fixed texts, and the mark of a list. -/
theorem toList_typeText (t : String × Bool) :
    (typeText t).toList = "z.infer<typeof ".toList ++
      ((t.1 ++ "Schema").toList ++ '>' :: (if t.2 then "[]" else "").toList) := by
  have hschema : "Schema>".toList = "Schema".toList ++ ['>'] := by decide
  show ("z.infer<typeof " ++ t.1 ++ "Schema>" ++ (if t.2 then "[]" else "")).toList = _
  simp only [String.toList_append, hschema, List.append_assoc, List.singleton_append]

/-- A type is read up to the end of its marks: a list is marked, and nothing that may stand behind a
type looks like the mark. -/
theorem typeText_readable :
    Text.Readable typeText (fun t => Text.OfWordChars t.1) (fun s => s.head? ≠ some '[') := by
  intro (name, isList) (name', isList') s t hname hname' hs ht h
  simp only [toList_typeText, List.append_assoc, List.cons_append] at h
  have hschema : Text.OfWordChars "Schema" := by decide
  obtain ⟨hnames, -, hmarks⟩ := (hname.append hschema).unique (hname'.append hschema) (by decide)
    (by decide) (List.append_cancel_left h)
  have hsame : name = name' := (String.append_left_inj "Schema").1 hnames
  cases isList with
  | true =>
      cases isList' with
      | true => exact ⟨by rw [hsame], List.append_cancel_left hmarks⟩
      | false =>
          have hopen : t = '[' :: ']' :: s := by simpa using hmarks.symm
          exact absurd (by rw [hopen, List.head?_cons]) ht
  | false =>
      cases isList' with
      | true =>
          have hopen : s = '[' :: ']' :: t := by simpa using hmarks
          exact absurd (by rw [hopen, List.head?_cons]) hs
      | false => exact ⟨by rw [hsame], hmarks⟩

/-- The types of an argument are read up to a comma or to the end of the text. -/
theorem types_readable :
    Text.Readable (fun types : List (String × Bool) => " | ".intercalate (types.map typeText))
      (fun types => ∀ t ∈ types, Text.OfWordChars t.1) (fun s => ∀ c ∈ s.head?, c = ',') := by
  refine typeText_readable.joined ?_
  constructor
  · intro s hs hopen
    exact absurd (hs '[' hopen) (by decide)
  · intro s hopen
    exact absurd hopen (by simp)
  · intro s hcomma
    exact absurd (hcomma ' ' (by simp)) (by decide)
  · intro t s ht hcomma
    rw [toList_typeText] at hcomma
    exact absurd (hcomma 'z' rfl) (by decide)

/-- The first character behind the name of an argument tells whether the argument is required. -/
theorem toList_text (d : Declaration) :
    d.text.toList = d.name.toList ++ (if d.isRequired then ':' else '?') ::
      ((if d.isRequired then " " else ": ").toList ++
        (" | ".intercalate (d.types.map typeText)).toList) := by
  obtain ⟨name, isRequired, types⟩ := d
  cases isRequired <;> simp [text]

/-- A declaration is read up to a comma or to the end of the text. -/
theorem text_readable :
    Text.Readable text NamedByWords (fun s => ∀ c ∈ s.head?, c = ',') := by
  intro ⟨name, isRequired, types⟩ ⟨name', isRequired', types'⟩ s t hd hd' hs ht h
  simp only [toList_text, List.append_assoc, List.cons_append] at h
  obtain ⟨hname, hmark, hrest⟩ : name = name' ∧ _ ∧ _ :=
    hd.name.unique hd'.name (by split <;> decide) (by split <;> decide) h
  have hrequired : isRequired = isRequired' := by
    cases isRequired <;> cases isRequired' <;> simp_all
  subst hrequired
  obtain ⟨htypes, hend⟩ := types_readable types types' s t hd.types hd'.types hs ht
    (List.append_cancel_left hrest)
  exact ⟨by rw [hname, htypes], hend⟩

/-- Declarations are read up to the end of the text. -/
theorem joined_readable :
    Text.Readable (fun ds : List Declaration => ", ".intercalate (ds.map text))
      (fun ds => ∀ d ∈ ds, NamedByWords d) (fun s => s = []) := by
  refine text_readable.joined ?_
  constructor
  · intro s hs c hc
    simp [hs] at hc
  · intro s c hc
    simpa using hc.symm
  · intro s hnil
    simp at hnil
  · intro d s hd hnil
    simp [text] at hnil

end Declaration

end Arg

namespace Action

theorem customArg_eq (arg : Arg) : customArg arg = arg.declaration.text := by
  rw [customArg, Arg.Declaration.text, Arg.declaration, List.map_map]
  rfl

/-- The text of the arguments that are declared again is made of their declarations. -/
theorem customArgs_eq (a : Action) :
    a.customArgs =
      ", ".intercalate ((a.redeclaredArgs.map Arg.declaration).map Arg.Declaration.text) := by
  rw [List.map_map, customArgs, redeclaredArgs, funext customArg_eq]
  rfl

/-- When the arguments that are declared again and their types are named by word characters, the
text of two actions is the same exactly when they declare the same arguments again, in the same
order. -/
theorem customArgs_eq_iff {a b : Action}
    (ha : ∀ arg ∈ a.redeclaredArgs, arg.declaration.NamedByWords)
    (hb : ∀ arg ∈ b.redeclaredArgs, arg.declaration.NamedByWords) :
    a.customArgs = b.customArgs ↔
      a.redeclaredArgs.map Arg.declaration = b.redeclaredArgs.map Arg.declaration := by
  rw [customArgs_eq, customArgs_eq]
  constructor
  · intro htexts
    exact Arg.Declaration.joined_readable.eq_of_eq rfl (List.forall_mem_map.2 ha)
      (List.forall_mem_map.2 hb) htexts
  · intro hdeclarations
    rw [hdeclarations]

/-- The data of an update: an optional argument that accepts a value or a list. -/
def updatedData : Document.Arg :=
  { Document.Arg.plain "data" [] with
    isRequired := false
    inputTypes := [⟨"UserUpdateInput", "inputObjectTypes", none, false⟩,
      ⟨"UserUpdateInput", "inputObjectTypes", none, true⟩] }

/-- A document with the update of one record and of many records. -/
def updatesOfUsers : Document :=
  .ofQueries [.plain "User" []]
    [{ Document.Operation.plain "updateOneUser" "User" with
        args := [updatedData, .plain "where" ["UserWhereUniqueInput"]] },
      { Document.Operation.plain "updateManyUser" "User" with args := [updatedData] }]

/-- The text of the data of an update. -/
def updatedDataText : String :=
  "data?: z.infer<typeof UserUpdateInputSchema> | z.infer<typeof UserUpdateInputSchema>[]"

/-- The data of an update as it is declared. -/
def updatedDataDeclaration : Arg.Declaration :=
  ⟨"data", false, [("UserUpdateInput", false), ("UserUpdateInput", true)]⟩

/-- The update of one record and of many records have the same text, so they declare the same data
again. -/
theorem same_data_of_updates :
    ∃ one many : Action, one.name = "updateOneUser" ∧ many.name = "updateManyUser" ∧
      one.customArgs = updatedDataText ∧ many.customArgs = updatedDataText ∧
      one.redeclaredArgs.map Arg.declaration = [updatedDataDeclaration] ∧
      many.redeclaredArgs.map Arg.declaration = [updatedDataDeclaration] := by
  obtain ⟨_, _, one, -, hone⟩ := @Graph.exists_build_of_any .default Verb.all updatesOfUsers
    (fun a => decide (a.name = "updateOneUser" ∧ a.customArgs = updatedDataText ∧
      a.redeclaredArgs.map Arg.declaration = [updatedDataDeclaration])) (by decide)
  obtain ⟨_, _, many, -, hmany⟩ := @Graph.exists_build_of_any .default Verb.all updatesOfUsers
    (fun a => decide (a.name = "updateManyUser" ∧ a.customArgs = updatedDataText ∧
      ∀ arg ∈ a.redeclaredArgs, arg.declaration.NamedByWords)) (by decide)
  obtain ⟨hone, honeText, honeArgs⟩ := of_decide_eq_true hone
  obtain ⟨hmany, hmanyText, hmanyNamed⟩ := of_decide_eq_true hmany
  have honeNamed : ∀ arg ∈ one.redeclaredArgs, arg.declaration.NamedByWords := by
    rw [← List.forall_mem_map, honeArgs]
    decide
  have hsame := (customArgs_eq_iff honeNamed hmanyNamed).1 (honeText.trans hmanyText.symm)
  exact ⟨one, many, hone, hmany, honeText, hmanyText, honeArgs, hsame.symm.trans honeArgs⟩

end Action

end ModelGraph
