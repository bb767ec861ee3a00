import ModelGraph.Proofs.Action.Include
import ModelGraph.Proofs.Model.Imports
import ModelGraph.Proofs.Options.NormalForm

/-!
# The paths of options

A path is refused when it has nothing but slashes once the blanks around it are gone, and that is
all that can be wrong with options whose keys and kinds of values are right (`exists_ofValue_iff`).
The paths that are left can be put between other text (`shapely_of_ofValue`): `Template` has the
statements that a graph asks for by itself, in which the text around the path is all that differs,
and `Seamless` says that the path fits in there.
-/

namespace ModelGraph.Options

open Validation

variable {entries : Entries} {raw : Value} {o : Options} {file : Option String}

/-! ## Paths that are refused -/

/-- A path has nothing but slashes in it once the blanks around it are gone. -/
def Hollow (s : String) : Prop :=
  ∀ c ∈ Text.trim s.toList, c = '/'

/-- Nothing can be wrong with the entries but what their paths are: all keys are known, each path is
a text, and the flag says a truth value. -/
structure WellTyped (entries : Entries) : Prop where
  known : ∀ entry ∈ entries, ∃ key ∈ keys, entry.1 = .text key
  texts : ∀ f ∈ PathField.all, ∀ value, Entries.get? (.text f.key) entries = some value →
    ∃ s, text value = .ok s
  flag : ∀ value, Entries.get? (.text "create_optional_default_values_types") entries = some value →
    ∃ b, flag value = .ok b

theorem pathLetters_eq_nil_iff {s : String} : pathLetters s.toList = [] ↔ Hollow s := by
  have hdrop : pathLetters s.toList = [] ↔ ∀ c ∈ Text.trim s.toList, (c == '/') = true :=
    List.rdropWhile_eq_nil_iff
  simpa [Hollow] using hdrop

/-- A text is read as a path unless it is hollow. -/
theorem exists_pathOfText_iff {finish : List Char → List Char} {s : String} :
    (∃ path, pathOfText finish s = .ok path) ↔ ¬ Hollow s := by
  rw [← pathLetters_eq_nil_iff]
  simp only [PathField.pathOfText_eq_ok_iff]
  constructor
  · rintro ⟨path, hne, -⟩
    exact hne
  · intro hne
    exact ⟨String.ofList (finish (pathLetters s.toList)), hne, String.toList_ofList⟩

/-- A path of well-typed entries is read unless what is given for it is hollow. -/
theorem exists_path_iff (h : WellTyped entries) {f : PathField} (hf : f ∈ PathField.all) :
    (∃ path, Validation.optional (.single f.key) f.fallback (pathWith f.finish) entries =
        .ok path) ↔
      ∀ s, Gives (.object entries) f.key s → ¬ Hollow s := by
  have hgives : ∀ s, Gives (.object entries) f.key s ↔
      ∃ value, Entries.get? (.text f.key) entries = some value ∧ text value = .ok s := by
    simp [Gives]
  simp only [optional_eq_ok_iff, FieldKey.find?_single, hgives]
  cases hget : Entries.get? (.text f.key) entries with
  | none => simp
  | some value =>
      obtain ⟨s, hs⟩ := h.texts f hf value hget
      simp [pathWith_eq_ok_iff, hs, exists_pathOfText_iff]

/-- Well-typed entries are read unless one of their paths is hollow. -/
theorem exists_ofValue_iff (h : WellTyped entries) :
    (∃ o, ofValue (.object entries) file = .ok o) ↔
      ∀ f ∈ PathField.all, ∀ s, Gives (.object entries) f.key s → ¬ Hollow s := by
  have hpaths : (∀ f ∈ PathField.all, ∀ s, Gives (.object entries) f.key s → ¬ Hollow s) ↔
      ∀ f ∈ PathField.all, ∃ path,
        Validation.optional (.single f.key) f.fallback (pathWith f.finish) entries = .ok path :=
    forall₂_congr fun f hf => (exists_path_iff h hf).symm
  have hflag : ∃ b, Validation.optional (.single "create_optional_default_values_types")
      default.optionalDefaults flag entries = .ok b := by
    simp only [optional_eq_ok_iff, FieldKey.find?_single]
    cases hget : Entries.get? (.text "create_optional_default_values_types") entries with
    | none => simp
    | some value => simpa using h.flag value hget
  rw [hpaths]
  simp only [ofValue_object_eq_ok_iff, readEntries_eq_ok_iff]
  constructor
  · rintro ⟨o, hread, -⟩ f hf
    exact ⟨_, hread f hf⟩
  · simp only [PathField.all, List.forall_mem_cons, List.not_mem_nil, false_implies, implies_true,
      and_true]
    rintro ⟨⟨client, hclient⟩, ⟨input, hinput⟩, ⟨enum, henum⟩, ⟨helpers, hhelpers⟩⟩
    obtain ⟨b, hb⟩ := hflag
    exact ⟨⟨client, input, enum, helpers, b⟩, ⟨hclient, hinput, henum, hhelpers⟩, hb,
      knownKeys_eq_ok_iff.2 h.known⟩

/-! ## Paths that are read -/

/-- There is something of each path and no slash at its end, and no slash at the front of those
below the output root. -/
structure Shapely (o : Options) : Prop where
  ne_empty : ∀ path ∈ [o.clientPath, o.inputTypePath, o.enumPath, o.helpersPath], path ≠ ""
  back : ∀ path ∈ [o.clientPath, o.inputTypePath, o.enumPath, o.helpersPath],
    path.toList.getLast? ≠ some '/'
  front : ∀ path ∈ [o.inputTypePath, o.enumPath, o.helpersPath], path.toList.head? ≠ some '/'

/-- No slash is left at the front of a settled path below the output root. -/
theorem PathField.Settled.head?_ne {f : PathField} {path : String} (h : f.Settled path)
    (hrelative : f.relative = true) : path.toList.head? ≠ some '/' := by
  intro hslash
  have hfront : path.toList.dropWhile (· == '/') = path.toList := by
    simpa [PathField.finish, hrelative] using h.front
  simpa using Text.dropWhile_eq_self_iff.1 hfront '/' hslash

/-- The paths of options that were read are in shape. -/
theorem shapely_of_ofValue (h : ofValue raw file = .ok o) : Shapely o := by
  have hsettled : ∀ f ∈ PathField.all, f.Settled (f.get o) := by
    intro f hf
    obtain ⟨s, hs, -⟩ := exists_pathOfText h hf
    exact PathField.settled_of_pathOfText hs
  have hall : ∀ f ∈ PathField.all, f.get o ≠ "" ∧ (f.get o).toList.getLast? ≠ some '/' ∧
      (f.relative = true → (f.get o).toList.head? ≠ some '/') := by
    intro f hf
    refine ⟨fun hnil => (hsettled f hf).nonempty (by simp [hnil]), fun hslash => ?_,
      (hsettled f hf).head?_ne⟩
    simpa using (hsettled f hf).back '/' hslash
  simp only [PathField.all, List.forall_mem_cons] at hall
  obtain ⟨hclient, hinput, henum, hhelpers, -⟩ := hall
  constructor <;> simp_all

/-! ## Statements with a path -/

/-- A statement that a graph asks for by itself, without the path in it. -/
inductive Template where
  | nullableJson
  | inputJson
  | client
  | enumSchema (type : String)
  | inputSchema (type : String)

namespace Template

/-- The path that is put into the statement. -/
def path (o : Options) : Template → String
  | .nullableJson | .inputJson => o.helpersPath
  | .client => o.clientPath
  | .enumSchema _ => o.enumPath
  | .inputSchema _ => o.inputTypePath

/-- What stands before the path. -/
def before : Template → String
  | .nullableJson => "import \x7b NullableJsonValue \x7d from '../"
  | .inputJson => "import \x7b InputJsonValue \x7d from '../"
  | .client => "import * as PrismaClient from '"
  | .enumSchema type | .inputSchema type => "import \x7b " ++ type ++ "Schema \x7d from '../"

/-- What stands behind the path. -/
def behind : Template → String
  | .nullableJson | .inputJson | .client => "'"
  | .enumSchema type | .inputSchema type => "/" ++ type ++ "Schema'"

/-- The statement with the path of some options. -/
def render (o : Options) (t : Template) : String :=
  t.before ++ t.path o ++ t.behind

end Template

/-- There is something of a path, and it makes no second slash with a slash before or behind it. -/
structure Seamless (before path behind : String) : Prop where
  ne_empty : path ≠ ""
  front : before.toList.getLast? = some '/' → path.toList.head? ≠ some '/'
  back : behind.toList.head? = some '/' → path.toList.getLast? ≠ some '/'

/-- A statement has a path of the options in it, and the path fits. -/
def Joins (o : Options) (statement : String) : Prop :=
  ∃ t : Template, statement = t.render o ∧ Seamless t.before (t.path o) t.behind

/-- Paths in shape fit into every template. -/
theorem Shapely.seamless (h : Shapely o) (t : Template) :
    Seamless t.before (t.path o) t.behind := by
  obtain ⟨hne, hback, hfront⟩ := h
  simp only [List.forall_mem_cons] at hne hback hfront
  cases t with
  | client => exact ⟨hne.1, fun hslash => absurd hslash (by decide), fun _ => hback.1⟩
  | _ => constructor <;> simp_all [Template.path]

/-- Every statement of a template has a path of the options in it. -/
theorem Shapely.joins (h : Shapely o) (t : Template) : Joins o (t.render o) :=
  ⟨t, rfl, h.seamless t⟩

theorem schema_eq_render_enum (o : Options) (type : String) :
    Import.schema o.enumPath type = (Template.enumSchema type).render o := by
  simp [Import.schema, Import.named, Template.render, Template.before, Template.behind,
    Template.path, String.append_assoc]

theorem schema_eq_render_input (o : Options) (type : String) :
    Import.schema o.inputTypePath type = (Template.inputSchema type).render o := by
  simp [Import.schema, Import.named, Template.render, Template.before, Template.behind,
    Template.path, String.append_assoc]

/-- What the fields of a model imply has a path of the options in it. -/
theorem Shapely.joins_of_mem_impliedImports (h : Shapely o) {source : Document.Model}
    {statement : String} (hmem : statement ∈ source.impliedImports o) : Joins o statement := by
  rw [Document.Model.mem_impliedImports_iff, Document.Model.mem_valueImports_iff] at hmem
  rcases hmem with (⟨-, rfl⟩ | ⟨-, rfl⟩ | ⟨-, rfl⟩) | ⟨f, -, -, rfl⟩
  · exact h.joins .nullableJson
  · exact h.joins .inputJson
  · exact h.joins .client
  · exact schema_eq_render_enum o f.type ▸ h.joins (.enumSchema f.type)

/-- What an action imports has a path of the options in it. -/
theorem Shapely.joins_of_mem_imports (h : Shapely o) {verbs : List String} {models : List Model}
    {source : Document.Operation} {a : Action}
    (hbuild : (Action.build o verbs models source).outcome = .ok a) {statement : String}
    (hmem : statement ∈ a.imports.toList) : Joins o statement := by
  rw [Action.imports_of_build hbuild, Action.mem_importsOf_iff] at hmem
  obtain ⟨-, ⟨-, -, rfl⟩ | ⟨arg, -, type, -, rfl⟩⟩ := hmem
  · rw [Import.includeSchema, schema_eq_render_input]
    exact h.joins _
  · exact schema_eq_render_input o type ▸ h.joins (.inputSchema type)

/-- Options whose keys and kinds of values are right are refused exactly when a path that is given
for them has nothing but slashes in it, once the blanks around it are gone. In all options that were
read there is something of each path and no slash at its end, and no slash at the front of those
below the output root. So wherever a graph puts one of these paths into an import statement of its
own, the path is there, and no slash is doubled before or behind it. -/
theorem ofValue_shapes_paths (raw : Value) (file : Option String) :
    (∀ entries, raw = .object entries → WellTyped entries →
      ((∃ failure, ofValue raw file = .error failure) ↔
        ∃ f ∈ PathField.all, ∃ s, Gives raw f.key s ∧ Hollow s)) ∧
    ∀ o, ofValue raw file = .ok o → Shapely o ∧
      (∀ source m, (Model.build o source).outcome = .ok m → ∀ statement ∈ m.imports.toList,
        statement ∈ source.requestedImports ∨ Joins o statement) ∧
      ∀ verbs models source a, (Action.build o verbs models source).outcome = .ok a →
        ∀ statement ∈ a.imports.toList, Joins o statement := by
  refine ⟨fun entries hraw htyped => ?_, fun o hread => ?_⟩
  · subst hraw
    have hrefused : (∃ failure, ofValue (.object entries) file = .error failure) ↔
        ¬ ∃ o, ofValue (.object entries) file = .ok o := by
      cases ofValue (.object entries) file <;> simp
    rw [hrefused, exists_ofValue_iff htyped]
    simp
  · have hshape := shapely_of_ofValue hread
    refine ⟨hshape, fun source m hbuild statement hmem => ?_, fun verbs models source a hbuild _ =>
      hshape.joins_of_mem_imports hbuild⟩
    rw [Model.imports_toList_of_build hbuild, List.mem_eraseDups, List.mem_append] at hmem
    exact hmem.imp_right hshape.joins_of_mem_impliedImports

/-- A path of blanks and slashes is refused, and slashes at the ends of one are in no statement. -/
theorem ofValue_shapes_paths_of_slashes :
    WellTyped [(.text "enum_path", .text " // ")] ∧
      (∃ failure, ofValue (.object [(.text "enum_path", .text " // ")]) none = .error failure) ∧
      ∃ o m, ofValue (.record [("enum_path", .text " /enums/ ")]) none = .ok o ∧ Shapely o ∧
        (Model.build o .invoice).outcome = .ok m ∧
        ∀ statement ∈ m.imports.toList,
          statement ∈ Document.Model.invoice.requestedImports ∨ Joins o statement := by
  have htyped : WellTyped [(.text "enum_path", .text " // ")] := by
    refine ⟨by simp [keys], ?_, by simp [Entries.get?_cons]⟩
    simp [PathField.all, Entries.get?_cons, text]
  have hgives : Gives (.object [(.text "enum_path", .text " // ")]) "enum_path" " // " :=
    ⟨_, _, rfl, rfl, rfl⟩
  have htrim : Text.trim " // ".toList = ['/', '/'] := by decide
  have hhollow : Hollow " // " := by
    rw [Hollow, htrim]
    simp
  have hread : ofValue (.record [("enum_path", .text " /enums/ ")]) none = .ok default := rfl
  obtain ⟨m, hm, -⟩ := Traced.exists_outcome_of_any (x := Model.build default .invoice)
    (p := fun _ => true) (by decide)
  obtain ⟨hrefused, -⟩ := ofValue_shapes_paths (.object [(.text "enum_path", .text " // ")]) none
  obtain ⟨-, haccepted⟩ := ofValue_shapes_paths (.record [("enum_path", .text " /enums/ ")]) none
  obtain ⟨hshape, hmodel, -⟩ := haccepted default hread
  have henum : ⟨"enum_path", default.enumPath, true, enumPath⟩ ∈ PathField.all := by
    simp [PathField.all]
  exact ⟨htyped, (hrefused _ rfl htyped).2 ⟨_, henum, _, hgives, hhollow⟩, default, m, hread,
    hshape, hm, hmodel _ m hm⟩

end ModelGraph.Options
