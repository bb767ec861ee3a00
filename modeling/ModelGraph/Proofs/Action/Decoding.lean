import ModelGraph.Proofs.Action.Verb
import ModelGraph.Proofs.Graph.Build
import ModelGraph.Proofs.Name.Letters

/-!
# Decoding the name of an action

An action is named by a verb with the name of a model after it. `Separable` says when such a name
can be told apart again; `build_decodes_iff` says that building the action gives back the verb and
the model exactly then.
-/

namespace ModelGraph

/-- A verb and the name of a model that can be told apart when they are written together: no verb
that is listed earlier lies in the model name or begins with the verb and goes on as the model name
does, and the model name does not have the suffix in it. -/
structure Separable (verb model : String) : Prop where
  no_earlier : ∀ v ∈ Verb.earlier Verb.all verb, Text.occurs v model = false
  no_longer : ∀ v ∈ Verb.earlier Verb.all verb, ∀ rest,
    v.toList = verb.toList ++ rest → ¬ rest <+: model.toList
  no_suffix : Text.occurs Action.throwSuffix model = false

/-- An operation without arguments that gives one record of a type. -/
def Document.Operation.plain (name type : String) : Document.Operation :=
  { name
    isNullable := true
    outputType :=
      { type, location := "outputObjectTypes", namespaceName := none, isList := false }
    args := []
    deprecation := none
    documentation := none }

/-- The name of the type of the arguments of an action on a model, if its verb has a label. -/
def expectedArgName (verb model : String) : Option String :=
  (Verb.label? verb).map fun label => model ++ Name.pascal label ++ "Args"

namespace Verb

variable {verb model : String}

/-- The letters of the verbs are ASCII letters. -/
theorem isAlphanum_of_mem_verb : ∀ verb ∈ all, verb.toList.all Char.isAlphanum = true := by
  decide

/-- A verb occurs in its name with anything after it. -/
theorem occurs_self_append (verb model : String) : Text.occurs verb (verb ++ model) = true := by
  rw [Text.occurs_iff, String.toList_append]
  exact (List.prefix_append _ _).isInfix

/-- A verb in front of a text that begins with a capital is found again exactly when no earlier verb
comes from that text. -/
theorem find?_append_iff_of_capital (hverb : verb ∈ all) (hmodel : startsWithCapital model = true) :
    find? all (verb ++ model) = some verb ↔
      (∀ v ∈ earlier all verb, Text.occurs v model = false) ∧
      ∀ v ∈ earlier all verb, ∀ rest, v.toList = verb.toList ++ rest → ¬ rest <+: model.toList := by
  rw [find?_eq_some_iff hverb]
  simp only [occurs_self_append, true_and, ← Bool.not_eq_true]
  constructor
  · intro h
    refine ⟨fun v hv hoccurs => ?_, fun v hv rest hwhole hprefix => ?_⟩
    · exact h v hv ((occurs_append_iff hverb hv hmodel).2 (Or.inl hoccurs))
    · exact h v hv ((occurs_append_iff hverb hv hmodel).2 (Or.inr ⟨rest, hwhole, hprefix⟩))
  · rintro ⟨hmodelFree, hlonger⟩ v hv hoccurs
    rcases (occurs_append_iff hverb hv hmodel).1 hoccurs with h | ⟨rest, hwhole, hprefix⟩
    · exact hmodelFree v hv h
    · exact hlonger v hv rest hwhole hprefix

/-- A verb is found again exactly when no earlier verb comes from the model name. -/
theorem find?_append_iff (hverb : verb ∈ all) (hmodel : isModelName model = true) :
    find? all (verb ++ model) = some verb ↔
      (∀ v ∈ earlier all verb, Text.occurs v model = false) ∧
      ∀ v ∈ earlier all verb, ∀ rest, v.toList = verb.toList ++ rest → ¬ rest <+: model.toList :=
  find?_append_iff_of_capital hverb (startsWithCapital_of_isModelName hmodel)

end Verb

namespace Action

variable {verb model : String}

/-- An action is built from a name that has forms and a verb. -/
theorem build_of_find? {options : Options} {verbs : List String} {models : List Model}
    {source : Document.Operation} {names : Name.Forms}
    (hnames : Name.forms source.name = .ok names)
    (hverb : Verb.find? verbs source.name = some verb) :
    (build options verbs models source).outcome =
      .ok (ofVerb options models source names verb) :=
  build_eq_ok_iff.2 ⟨names, verb, hnames, hverb, rfl⟩

/-- The model type of a verb with a model name after it is that name exactly when it does not have
the suffix in it. -/
theorem modelTypeOf_append_iff : modelTypeOf verb (verb ++ model) = model ↔
    Text.occurs throwSuffix model = false := by
  rw [modelTypeOf, Text.erase_append]
  cases hoccurs : Text.occurs throwSuffix model with
  | true => simpa using Text.erase_ne_of_occurs (by decide) hoccurs
  | false => simpa using Text.erase_of_not_occurs hoccurs

/-- The name of the argument type has no suffix when the model name has none. -/
theorem argNameOf_append (hverb : verb ∈ Verb.all)
    (hsuffix : Text.occurs throwSuffix model = false) :
    argNameOf verb model (verb ++ model) = expectedArgName verb model := by
  simp [argNameOf, expectedArgName, Verb.occurs_throwSuffix_append hverb, hsuffix]

/-- A verb of the client with a model name after it has forms. -/
theorem exists_forms_append (hverb : verb ∈ Verb.all) (hmodel : isModelName model = true) :
    ∃ names, Name.forms (verb ++ model) = .ok names := by
  apply Name.exists_forms_of_letters
  intro c hc
  rw [String.toList_append] at hc
  rcases List.mem_append.1 hc with hc | hc
  · exact Or.inl (List.all_eq_true.1 (Verb.isAlphanum_of_mem_verb verb hverb) c hc)
  · exact letters_of_isModelName hmodel c hc

/-- A verb of the client with a model name after it always names an action. It decodes to that
verb, that model and the argument type of both exactly when the two are separable. -/
theorem build_decodes_iff (options : Options) (models : List Model) {source : Document.Operation}
    (hverb : verb ∈ Verb.all) (hmodel : isModelName model = true)
    (hname : source.name = verb ++ model) :
    ∃ action, (build options Verb.all models source).outcome = .ok action ∧
      ((action.verb = verb ∧ action.modelType = model ∧
          action.argName = expectedArgName verb model) ↔ Separable verb model) := by
  obtain ⟨names, hnames⟩ := exists_forms_append hverb hmodel
  obtain ⟨found, hfound⟩ := Verb.exists_find? hverb (Verb.occurs_self_append verb model)
  refine ⟨_, build_of_find? (hname ▸ hnames) (hname ▸ hfound), ?_⟩
  simp only [ofVerb, hname]
  constructor
  · rintro ⟨rfl, hmodelType, -⟩
    obtain ⟨hearlier, hlonger⟩ := (Verb.find?_append_iff hverb hmodel).1 hfound
    exact ⟨hearlier, hlonger, modelTypeOf_append_iff.1 hmodelType⟩
  · intro h
    have hsame := (Verb.find?_append_iff hverb hmodel).2 ⟨h.no_earlier, h.no_longer⟩
    obtain rfl : verb = found := Option.some.inj (hsame.symm.trans hfound)
    have hmodelType : modelTypeOf verb (verb ++ model) = model :=
      modelTypeOf_append_iff.2 h.no_suffix
    exact ⟨rfl, hmodelType, by rw [hmodelType, argNameOf_append hverb h.no_suffix]⟩

/-- A model name that begins almost like the rest of a longer verb. -/
theorem build_decodes_createMany_android :
    ∃ action, (build .default Verb.all [] (.plain "createManyAndroidOrder" "Order")).outcome =
        .ok action ∧
      action.verb = "createMany" ∧ action.modelType = "AndroidOrder" ∧
        action.argName = some "AndroidOrderCreateManyArgs" := by
  have hverb : "createMany" ∈ Verb.all := by decide
  have hmodel : isModelName "AndroidOrder" = true := by decide
  have hseparable : Separable "createMany" "AndroidOrder" := by
    obtain ⟨hearlier, hlonger⟩ := (Verb.find?_append_iff hverb hmodel).1 (by decide +kernel)
    exact ⟨hearlier, hlonger, by decide +kernel⟩
  obtain ⟨action, hbuild, hdecodes⟩ :=
    @build_decodes_iff "createMany" "AndroidOrder" .default []
      (.plain "createManyAndroidOrder" "Order") hverb hmodel rfl
  obtain ⟨hactionVerb, hmodelType, hargName⟩ := hdecodes.2 hseparable
  exact ⟨action, hbuild, hactionVerb, hmodelType, hargName.trans (by decide +kernel)⟩

/-- Not every verb comes back: "aggregate" before "RawEvent" reads as "aggregateRaw" before
"Event". -/
theorem build_not_always_decodes :
    ¬ ∀ verb ∈ Verb.all, ∀ model, isModelName model = true →
      ∀ options models (source : Document.Operation), source.name = verb ++ model →
        ∃ action, (build options Verb.all models source).outcome = .ok action ∧
          action.verb = verb ∧ action.modelType = model ∧
            action.argName = expectedArgName verb model := by
  intro hall
  have hverb : "aggregate" ∈ Verb.all := by decide
  have hmodel : isModelName "RawEvent" = true := by decide
  obtain ⟨action, hbuild, hactionVerb, -⟩ :=
    hall "aggregate" hverb "RawEvent" hmodel .default [] (.plain "aggregateRawEvent" "Event") rfl
  obtain ⟨names, hnames⟩ := exists_forms_append hverb hmodel
  have hraw : (build .default Verb.all [] (.plain "aggregateRawEvent" "Event")).outcome =
      .ok (ofVerb .default [] (.plain "aggregateRawEvent" "Event") names "aggregateRaw") :=
    build_of_find? hnames (by decide +kernel)
  obtain rfl := Except.ok.inj (hraw.symm.trans hbuild)
  exact absurd hactionVerb (by decide : ¬ "aggregateRaw" = "aggregate")

end Action

end ModelGraph
