import ModelGraph.Proofs.Action.Decoding

/-!
# Linking actions to models

An action is linked to the first model whose name occurs in its model type (`LinksTo`). Where the
names of the datamodel are `Distinguishable`, this is the very model that the action is named
after. `build_links_exactly` says so for every verb, with the suffix and without it, and says when
such an action is built at all: unless the name has the suffix behind a line break.
-/

namespace ModelGraph

/-- The model at place `i` is the first one whose name occurs in the model type. -/
structure LinksTo (models : List Model) (modelType : String) (i : Nat) (m : Model) : Prop where
  at_index : models[i]? = some m
  occurs : Text.occurs m.name modelType = true
  first : ∀ j < i, ∀ other, models[j]? = some other → Text.occurs other.name modelType = false

/-- A model name that cannot be mistaken for a part of what the name of an action has besides. -/
structure PlainName (name : String) : Prop where
  capital : startsWithCapital name = true
  no_verb : ∀ verb ∈ Verb.all, Text.occurs verb name = false
  no_suffix : Text.occurs Action.throwSuffix name = false
  no_andReturn : ¬ "AndReturn".toList <+: name.toList
  no_raw : ¬ "Raw".toList <+: name.toList

/-- Model names, in declaration order, that actions can be told apart by: they are different and
plain, and where one occurs inside another, the containing one comes first. -/
structure Distinguishable (names : List String) : Prop where
  distinct : names.Nodup
  plain : ∀ name ∈ names, PlainName name
  containing_first : names.Pairwise fun earlier later => Text.occurs earlier later = false

instance (name : String) : Decidable (PlainName name) :=
  decidable_of_iff
    (startsWithCapital name = true ∧ (∀ verb ∈ Verb.all, Text.occurs verb name = false) ∧
      Text.occurs Action.throwSuffix name = false ∧ ¬ "AndReturn".toList <+: name.toList ∧
      ¬ "Raw".toList <+: name.toList)
    ⟨fun ⟨capital, noVerb, noSuffix, noAndReturn, noRaw⟩ =>
        ⟨capital, noVerb, noSuffix, noAndReturn, noRaw⟩,
      fun h => ⟨h.capital, h.no_verb, h.no_suffix, h.no_andReturn, h.no_raw⟩⟩

instance (names : List String) : Decidable (Distinguishable names) :=
  decidable_of_iff
    (names.Nodup ∧ (∀ name ∈ names, PlainName name) ∧
      names.Pairwise fun earlier later => Text.occurs earlier later = false)
    ⟨fun ⟨distinct, plain, containingFirst⟩ => ⟨distinct, plain, containingFirst⟩,
      fun h => ⟨h.distinct, h.plain, h.containing_first⟩⟩

/-- An action has the given verb and is linked, with each of its arguments, to the model `m` at
place `i`; its name ends with the suffix when `throws`. -/
structure LinkedTo (a : Action) (verb : String) (throws : Bool) (i : Nat) (m : Model) : Prop where
  verb_eq : a.verb = verb
  modelType_eq : a.modelType = m.name
  argName_eq : a.argName = (Verb.label? verb).map fun label =>
    m.name ++ Name.pascal label ++ (if throws then Action.throwSuffix else "") ++ "Args"
  linkedIndex_eq : a.linkedIndex = some i
  sources_eq : a.args.map Arg.source = a.source.args
  field_eq : ∀ arg ∈ a.args, arg.linkedField = m.fields.find? fun f => f.name == arg.name

/-- A field with no marks but omit targets. -/
def Document.Field.plain (name : String) (kind : FieldKind) (type : String)
    (omitTargets : List String) : Field :=
  { name
    kind
    type
    isList := false
    isRequired := true
    isUnique := false
    isId := false
    isReadOnly := false
    isUpdatedAt := false
    hasDefaultValue := false
    dbName := none
    relationName := none
    documentation := none
    omitTargets }

/-- A model of nothing but fields. -/
def Document.Model.plain (name : String) (fields : List Field) : Model :=
  { name
    dbName := none
    fields
    uniqueFields := []
    uniqueIndexes := []
    primaryKey := none
    documentation := none }

/-- A required argument that accepts single values of the given types. -/
def Document.Arg.plain (name : String) (types : List String) : Arg :=
  { name
    isRequired := true
    isNullable := false
    inputTypes := types.map fun type =>
      { type, location := "inputObjectTypes", namespaceName := none, isList := false }
    deprecation := none }

/-- A document of models and queries. -/
def Document.ofQueries (models : List Model) (queries : List Operation) : Document :=
  { datamodel := { models, enums := [] }
    schema := { outputTypes := { client := [{ name := "Query", fields := queries }], model := [] } } }

/-- A document without models that has the given output types. -/
def Document.ofTypes (types : List (String × List String)) : Document :=
  { datamodel := { models := [], enums := [] }
    schema := { outputTypes := {
      client := types.map fun (name, operations) =>
        { name, fields := operations.map fun operation => .plain operation "User" }
      model := [] } } }

/-! ## The first model that occurs -/

namespace LinksTo

variable {models : List Model} {modelType : String} {i : Nat} {m : Model}

/-- The first model whose name occurs is found, with its place. -/
theorem linkedIndex?_eq (h : LinksTo models modelType i m) :
    Action.linkedIndex? modelType models = some i := by
  obtain ⟨hi, hat⟩ := List.getElem?_eq_some_iff.1 h.at_index
  rw [Action.linkedIndex?, List.findIdx?_eq_some_iff_getElem]
  refine ⟨hi, by rw [hat]; exact h.occurs, fun j hj => ?_⟩
  rw [Bool.not_eq_true]
  exact h.first j hj _ (List.getElem?_eq_getElem (Nat.lt_trans hj hi))

/-- There is only one such model. -/
theorem unique (h : LinksTo models modelType i m) {j : Nat} {other : Model}
    (hother : LinksTo models modelType j other) : i = j ∧ m = other := by
  obtain rfl : i = j := Option.some.inj (h.linkedIndex?_eq.symm.trans hother.linkedIndex?_eq)
  exact ⟨rfl, Option.some.inj (h.at_index.symm.trans hother.at_index)⟩

/-- Where containing names come first, a model is the first one to occur in its own name. -/
theorem of_containing_first
    (h : (models.map Model.name).Pairwise fun earlier later => Text.occurs earlier later = false)
    (hm : models[i]? = some m) : LinksTo models m.name i m := by
  obtain ⟨hi, hat⟩ := List.getElem?_eq_some_iff.1 hm
  refine ⟨hm, ?_, fun j hj other hother => ?_⟩
  · exact Text.occurs_iff.2 List.infix_rfl
  · obtain ⟨hjLength, hotherAt⟩ := List.getElem?_eq_some_iff.1 hother
    have hpair := List.pairwise_iff_getElem.1 h j i (by simpa using hjLength) (by simpa using hi) hj
    simpa [hotherAt, hat] using hpair

end LinksTo

namespace Action

/-- A found place is that of the first model whose name occurs. -/
theorem linkedIndex?_eq_some_iff {models : List Model} {modelType : String} {i : Nat} :
    linkedIndex? modelType models = some i ↔ ∃ m, LinksTo models modelType i m := by
  refine ⟨fun h => ?_, fun ⟨m, hm⟩ => hm.linkedIndex?_eq⟩
  obtain ⟨hi, hoccurs, hfirst⟩ := List.findIdx?_eq_some_iff_getElem.1 h
  refine ⟨models[i], List.getElem?_eq_getElem hi, hoccurs, fun j hj other hother => ?_⟩
  obtain ⟨hjLength, rfl⟩ := List.getElem?_eq_some_iff.1 hother
  exact Bool.not_eq_true _ ▸ hfirst j hj

/-- The linked model of an action is the first one whose name occurs in its model type. -/
theorem linkedModel_eq_some_iff_of_build {options : Options} {verbs : List String}
    {models : List Model} {source : Document.Operation} {a : Action}
    (h : (build options verbs models source).outcome = .ok a) {m : Model} :
    a.linkedModel = some m ↔ ∃ i, LinksTo models a.modelType i m := by
  obtain ⟨names, verb, -, -, rfl⟩ := build_eq_ok_iff.1 h
  simp only [ofVerb, Option.bind_eq_some_iff, linkedIndex?_eq_some_iff]
  constructor
  · rintro ⟨i, ⟨other, hother⟩, hm⟩
    obtain rfl : other = m := Option.some.inj (hother.at_index.symm.trans hm)
    exact ⟨i, hother⟩
  · rintro ⟨i, hm⟩
    exact ⟨i, ⟨m, hm⟩, hm.at_index⟩

end Action

/-- The name at a place of a list of model names is that of the model there. -/
theorem Model.exists_of_names {models : List Model} {names : List String}
    (h : models.map name = names) {i : Nat} {n : String} (hn : names[i]? = some n) :
    ∃ m, models[i]? = some m ∧ m.name = n := by
  rw [← h, List.getElem?_map] at hn
  exact Option.map_eq_some_iff.1 hn

/-! ## Names that can be told apart -/

namespace Verb

/-- What a longer verb has after an earlier listed one is "AndReturn" or "Raw". -/
theorem rest_of_longer : ∀ verb ∈ all, ∀ v ∈ earlier all verb, verb.toList <+: v.toList →
    v.toList.drop verb.toList.length ∈ ["AndReturn".toList, "Raw".toList] := by
  decide

/-- A verb can be told apart from every plain name. -/
theorem separable_of_plainName {verb name : String} (hverb : verb ∈ all) (h : PlainName name) :
    Separable verb name where
  no_earlier v hv := h.no_verb v (List.takeWhile_subset _ hv)
  no_longer v hv rest hwhole hprefix := by
    -- Only two texts make a verb a longer one, and a plain name begins with neither.
    have hrest := rest_of_longer verb hverb v hv ⟨rest, hwhole.symm⟩
    rw [hwhole, List.drop_left] at hrest
    rcases List.mem_cons.1 hrest with rfl | hrest
    · exact h.no_andReturn hprefix
    · rw [List.mem_singleton.1 hrest] at hprefix
      exact h.no_raw hprefix
  no_suffix := h.no_suffix

end Verb

namespace Action

variable {verb name : String}

/-- A verb in front of a plain name is found, with the suffix and without it. -/
theorem find?_of_plainName (hverb : verb ∈ Verb.all) (h : PlainName name) (throws : Bool) :
    Verb.find? Verb.all (verb ++ name ++ if throws then throwSuffix else "") = some verb := by
  have hseparable := Verb.separable_of_plainName hverb h
  have hfound := (Verb.find?_append_iff_of_capital hverb h.capital).2
    ⟨hseparable.no_earlier, hseparable.no_longer⟩
  cases throws with
  | true => exact (Verb.find?_append_throwSuffix _).trans hfound
  | false => simpa using hfound

/-- The suffix cannot overlap itself. -/
theorem throwSuffix_borderless :
    Text.reachesInto throwSuffix.toList throwSuffix.toList = false := by
  decide

/-- Without the verb and the suffix, a plain name is left. -/
theorem modelTypeOf_of_plainName (h : PlainName name) (throws : Bool) :
    modelTypeOf verb (verb ++ name ++ if throws then throwSuffix else "") = name := by
  rw [modelTypeOf, String.append_assoc, Text.erase_append]
  cases throws with
  | true => exact Text.erase_append_self throwSuffix_borderless h.no_suffix
  | false => simpa using Text.erase_of_not_occurs h.no_suffix

/-- The suffix comes back in the name of the argument type exactly when it was in the name. -/
theorem argNameOf_of_plainName (hverb : verb ∈ Verb.all) (h : PlainName name) (throws : Bool) :
    argNameOf verb name (verb ++ name ++ if throws then throwSuffix else "") =
      (Verb.label? verb).map fun label =>
        name ++ Name.pascal label ++ (if throws then throwSuffix else "") ++ "Args" := by
  have hoccurs : Text.occurs throwSuffix (verb ++ name ++ if throws then throwSuffix else "") =
      throws := by
    cases throws with
    | true =>
        rw [Text.occurs_iff, if_pos rfl, String.toList_append]
        exact (List.suffix_append _ _).isInfix
    | false => simpa [Verb.occurs_throwSuffix_append hverb] using h.no_suffix
  rw [argNameOf, hoccurs]

/-- A verb with a plain name after it has forms exactly when the name has some, and with the suffix
exactly when the name has no line break. -/
theorem exists_forms_of_plainName_iff (hverb : verb ∈ Verb.all) (h : PlainName name)
    (hforms : ∃ names, Name.forms name = .ok names) (throws : Bool) :
    (∃ names, Name.forms (verb ++ name ++ if throws then throwSuffix else "") = .ok names) ↔
      ¬ (throws = true ∧ '\n' ∈ name.toList) := by
  have hletters := Verb.isAlphanum_of_mem_verb verb hverb
  cases throws with
  | true =>
      -- The verb in front changes nothing; the suffix keeps a break at the end from being dropped.
      obtain ⟨c, r, hname, hc⟩ := startsWithCapital_iff.1 h.capital
      have hcapital : startsWithCapital (name ++ throwSuffix) = true :=
        startsWithCapital_iff.2 ⟨c, r ++ throwSuffix.toList, by simp [hname], hc⟩
      rw [if_pos rfl, String.append_assoc, Name.exists_forms_word_append_iff hletters hcapital,
        Name.exists_forms_append_word_iff h.capital (by decide) (by decide)]
      simp
  | false =>
      have hsame := (Name.exists_forms_word_append_iff hletters h.capital).2 hforms
      simpa using hsame

end Action

namespace Action

open Traced

variable {options : Options} {source : Document.Datamodel} {datamodel : Datamodel}

/-- Where the names of a datamodel are distinguishable, an action that is named by a verb, a model
and perhaps the suffix is linked to that model, and its arguments to the first fields of their
names. Such an action is built unless it has the suffix and the name of the model a line break. -/
theorem build_links_exactly (hbuilt : (Datamodel.build options source).outcome = .ok datamodel)
    (h : Distinguishable (datamodel.models.map Model.name)) {i : Nat} {m : Model}
    (hm : datamodel.models[i]? = some m) {verb : String} (hverb : verb ∈ Verb.all) (throws : Bool)
    {operation : Document.Operation}
    (hname : operation.name = verb ++ m.name ++ if throws then throwSuffix else "") :
    (∀ a, (build options Verb.all datamodel.models operation).outcome = .ok a →
      LinkedTo a verb throws i m) ∧
    ((∃ a, (build options Verb.all datamodel.models operation).outcome = .ok a) ↔
      ¬ (throws = true ∧ '\n' ∈ m.name.toList)) := by
  have hmem : m ∈ datamodel.models := List.mem_of_getElem? hm
  have hplain : PlainName m.name := h.plain _ (List.mem_map_of_mem hmem)
  have hfound : Verb.find? Verb.all operation.name = some verb :=
    hname ▸ find?_of_plainName hverb hplain throws
  constructor
  · intro a ha
    obtain ⟨names, found, -, hverbFound, rfl⟩ := build_eq_ok_iff.1 ha
    obtain rfl : verb = found := Option.some.inj (hfound.symm.trans hverbFound)
    have hmodelType : modelTypeOf verb operation.name = m.name :=
      hname ▸ modelTypeOf_of_plainName hplain throws
    have hlinked : linkedIndex? m.name datamodel.models = some i :=
      (LinksTo.of_containing_first h.containing_first hm).linkedIndex?_eq
    refine ⟨rfl, hmodelType, ?_, by simp only [ofVerb, hmodelType, hlinked], ?_, ?_⟩
    · rw [← argNameOf_of_plainName hverb hplain throws, ← hname]
      simp only [ofVerb, hmodelType]
    · simp [ofVerb, Function.comp_def]
    · intro arg harg
      simp only [ofVerb, hmodelType, hlinked, Option.bind_some, hm, List.mem_map] at harg
      obtain ⟨_, -, rfl⟩ := harg
      rfl
  · have hforms := exists_forms_of_plainName_iff hverb hplain
      ⟨_, Datamodel.forms_of_mem_models hbuilt hmem⟩ throws
    rw [← hforms, ← hname]
    constructor
    · rintro ⟨a, ha⟩
      obtain ⟨names, -, hnames, -, -⟩ := build_eq_ok_iff.1 ha
      exact ⟨names, hnames⟩
    · rintro ⟨names, hnames⟩
      exact ⟨_, build_eq_ok_iff.2 ⟨names, verb, hnames, hfound, rfl⟩⟩

/-- A name inside another one, a verb that goes on in a longer verb, and the suffix. -/
theorem build_links_updateMany_user :
    ∃ datamodel m a,
      (Datamodel.build .default
        ⟨[.plain "UserProfile" [], .plain "User" [.plain "email" .scalar "String" []]], []⟩).outcome =
          .ok datamodel ∧
      datamodel.models[1]? = some m ∧ m.name = "User" ∧
      (build .default Verb.all datamodel.models
        { Document.Operation.plain "updateManyUserOrThrow" "User" with
          args := [.plain "email" ["String"], .plain "where" ["UserWhereInput"]] }).outcome = .ok a ∧
      LinkedTo a "updateMany" true 1 m ∧ a.argName = some "UserUpdateManyOrThrowArgs" := by
  obtain ⟨datamodel, hbuilt, hcheck⟩ := exists_outcome_of_any
    (x := Datamodel.build .default
      ⟨[.plain "UserProfile" [], .plain "User" [.plain "email" .scalar "String" []]], []⟩)
    (p := fun d => decide (d.models.map Model.name = ["UserProfile", "User"])) (by decide)
  have hnames : datamodel.models.map Model.name = ["UserProfile", "User"] := of_decide_eq_true hcheck
  have hdistinguishable : Distinguishable (datamodel.models.map Model.name) := by
    rw [hnames]
    decide
  obtain ⟨m, hm, hname⟩ : ∃ m, datamodel.models[1]? = some m ∧ m.name = "User" :=
    Model.exists_of_names hnames rfl
  obtain ⟨hlinked, hbuilds⟩ := @build_links_exactly .default _ datamodel hbuilt hdistinguishable 1 m
    hm "updateMany" (by decide) true
    { Document.Operation.plain "updateManyUserOrThrow" "User" with
      args := [.plain "email" ["String"], .plain "where" ["UserWhereInput"]] }
    (by rw [hname]; decide)
  obtain ⟨a, ha⟩ := hbuilds.2 (by rw [hname]; decide)
  have h := hlinked a ha
  refine ⟨datamodel, m, a, hbuilt, hm, hname, ha, h, ?_⟩
  rw [h.argName_eq, hname]
  decide

/-- A model name may end with a line break, but no action on that model has the suffix then. -/
theorem build_fails_of_line_break :
    ¬ ∀ options source datamodel, (Datamodel.build options source).outcome = .ok datamodel →
      Distinguishable (datamodel.models.map Model.name) →
        ∀ i m, datamodel.models[i]? = some m → ∀ verb ∈ Verb.all, ∀ (throws : Bool)
          (operation : Document.Operation),
          operation.name = verb ++ m.name ++ (if throws then throwSuffix else "") →
            ∃ a, (build options Verb.all datamodel.models operation).outcome = .ok a ∧
              LinkedTo a verb throws i m := by
  intro hall
  obtain ⟨datamodel, hbuilt, hcheck⟩ := exists_outcome_of_any
    (x := Datamodel.build .default ⟨[.plain "User\n" []], []⟩)
    (p := fun d => decide (d.models.map Model.name = ["User\n"])) (by decide)
  have hnames : datamodel.models.map Model.name = ["User\n"] := of_decide_eq_true hcheck
  have hdistinguishable : Distinguishable (datamodel.models.map Model.name) := by
    rw [hnames]
    decide
  obtain ⟨m, hm, hname⟩ : ∃ m, datamodel.models[0]? = some m ∧ m.name = "User\n" :=
    Model.exists_of_names hnames rfl
  obtain ⟨a, ha, -⟩ := hall .default _ datamodel hbuilt hdistinguishable 0 m hm "findMany"
    (by decide) true (.plain "findManyUser\nOrThrow" "User") (by rw [hname]; decide)
  obtain ⟨names, -, hforms, -⟩ := build_eq_ok_iff.1 ha
  have hnone : (Name.forms "findManyUser\nOrThrow").toOption = none := by decide
  rw [show Name.forms "findManyUser\nOrThrow" = .ok names from hforms] at hnone
  cases hnone

end Action

end ModelGraph
