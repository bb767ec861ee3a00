import Mathlib.Tactic.MkIffOfInductiveProp
import ModelGraph.Document.Write
import ModelGraph.Proofs.Action.Linking
import ModelGraph.Proofs.Directive.Extract
import ModelGraph.Proofs.Log.FirstFailure

/-!
# The checks of a build

A document is built by a fixed sequence of checks on its names, directives and verbs
(`Document.checks`). Every part of the build fails like the first of its own checks that fails, so
the whole build fails like the first failing check of the document: this is
`build_fails_at_first_check`, which also says in plain terms when no check fails.
-/

namespace ModelGraph

open Traced Marker

/-- A check that the build of a graph makes. -/
inductive Check where
  /-- The name has forms. -/
  | name (name : String)
  /-- The first marker in the documentation of the model has the known tag. -/
  | directive (model : String) (documentation : Option String)
  /-- The name of the action has a verb in it. -/
  | verb (action : String)

namespace Check

/-- A check fails, and why. -/
inductive FailsWith (verbs : List String) : Check → Failure → Prop
  | name {name : String} : '\n' ∈ (Name.camel name).toList.dropLast →
      FailsWith verbs (.name name) (.name .lineBreakInName)
  | directive {model documentation : String} {before rest : List Char} {m : Marker} :
      StandsFirst documentation.toList before m rest → m.tag ≠ Directive.importTag.toList →
      FailsWith verbs (.directive model (some documentation))
        (.unknownTag model (String.ofList m.tag))
  | verb {action : String} : (∀ verb ∈ verbs, Text.occurs verb action = false) →
      FailsWith verbs (.verb action) (.unknownVerb action)

/-- Why a check fails, if it does. -/
def failure? (verbs : List String) : Check → Option Failure
  | .name base => failureOf? ((Name.forms base).mapError Failure.name)
  | .directive model documentation => failureOf? (Directive.extract documentation model)
  | .verb action =>
    match Verb.find? verbs action with
    | none => some (.unknownVerb action)
    | some _ => none

variable {verbs : List String}

/-- Forms are missing because of a line break before the last letter of the camel case. -/
theorem failure?_name_eq_some_iff {name : String} {failure : Failure} :
    (Check.name name).failure? verbs = some failure ↔
      failure = .name .lineBreakInName ∧ '\n' ∈ (Name.camel name).toList.dropLast := by
  rw [failure?, failureOf?_eq_some_iff]
  constructor
  · intro h
    cases hforms : Name.forms name with
    | ok names => simp [hforms, Except.mapError] at h
    | error fault =>
        obtain ⟨rfl, hbreak⟩ := Name.forms_eq_error_iff.1 hforms
        rw [hforms] at h
        exact ⟨(Except.error.inj h).symm, hbreak⟩
  · rintro ⟨rfl, hbreak⟩
    rw [Name.forms_eq_error_iff.2 ⟨rfl, hbreak⟩]
    rfl

/-- A directive is refused because of the tag of the first marker. -/
theorem failure?_directive_eq_some_iff {model : String} {documentation : Option String}
    {failure : Failure} : (Check.directive model documentation).failure? verbs = some failure ↔
      ∃ text before m rest, documentation = some text ∧ StandsFirst text.toList before m rest ∧
        m.tag ≠ Directive.importTag.toList ∧
        failure = .unknownTag model (String.ofList m.tag) := by
  rw [failure?, failureOf?_eq_some_iff]
  cases documentation with
  | none =>
      constructor
      · intro h
        cases h
      · rintro ⟨_, _, _, _, h, -⟩
        cases h
  | some text =>
      rw [Directive.extract_eq_error_iff_first]
      constructor
      · rintro ⟨before, m, rest, hfirst, htag, hfailure⟩
        exact ⟨text, before, m, rest, rfl, hfirst, htag, hfailure⟩
      · rintro ⟨_, before, m, rest, htext, hfirst, htag, hfailure⟩
        cases htext
        exact ⟨before, m, rest, hfirst, htag, hfailure⟩

/-- A verb is missing when none of the list occurs. -/
theorem failure?_verb_eq_some_iff {action : String} {failure : Failure} :
    (Check.verb action).failure? verbs = some failure ↔
      failure = .unknownVerb action ∧ ∀ verb ∈ verbs, Text.occurs verb action = false := by
  rw [failure?, ← Verb.find?_eq_none_iff]
  cases Verb.find? verbs action with
  | none => simp [eq_comm]
  | some verb => simp

/-- What is computed of a check is why it fails. -/
theorem failure?_eq_some_iff {check : Check} {failure : Failure} :
    check.failure? verbs = some failure ↔ check.FailsWith verbs failure := by
  cases check with
  | name name =>
      rw [failure?_name_eq_some_iff]
      constructor
      · rintro ⟨rfl, hbreak⟩
        exact .name hbreak
      · intro h
        cases h with
        | name hbreak => exact ⟨rfl, hbreak⟩
  | directive model documentation =>
      rw [failure?_directive_eq_some_iff]
      constructor
      · rintro ⟨text, before, m, rest, rfl, hfirst, htag, rfl⟩
        exact .directive hfirst htag
      · intro h
        cases h with
        | directive hfirst htag => exact ⟨_, _, _, _, rfl, hfirst, htag, rfl⟩
  | verb action =>
      rw [failure?_verb_eq_some_iff]
      constructor
      · rintro ⟨rfl, hnone⟩
        exact .verb hnone
      · intro h
        cases h with
        | verb hnone => exact ⟨rfl, hnone⟩

/-- The failure of the first of some checks that fails. -/
def firstFailure? (verbs : List String) (checks : List Check) : Option Failure :=
  checks.findSome? (failure? verbs)

@[simp] theorem firstFailure?_singleton (check : Check) :
    firstFailure? verbs [check] = check.failure? verbs :=
  List.findSome?_singleton

@[simp] theorem firstFailure?_append (checks others : List Check) :
    firstFailure? verbs (checks ++ others) =
      (firstFailure? verbs checks).or (firstFailure? verbs others) :=
  List.findSome?_append

/-- Going through a list fails like the first check of its items that fails, if every item does. -/
theorem failure?_each {α β : Type} {f : α → Traced Failure β} {checks : α → List Check}
    (h : ∀ a, (f a).failure? = firstFailure? verbs (checks a)) (items : List α) :
    (each f items).failure? = firstFailure? verbs (items.flatMap checks) := by
  rw [Traced.failure?_each]
  induction items with
  | nil => rfl
  | cons a rest ih =>
      rw [List.findSome?_cons, ih, h, List.flatMap_cons, firstFailure?_append]
      cases firstFailure? verbs (checks a) <;> rfl

end Check

/-! ## The sequence of checks -/

namespace Document

/-- A field has its name checked. -/
def Field.checks (f : Field) : List Check :=
  [.name f.name]

/-- A model has its name checked, then its fields, then its directive. -/
def Model.checks (m : Model) : List Check :=
  [.name m.name] ++ m.fields.flatMap Field.checks ++ [.directive m.name m.documentation]

/-- An enumeration has its name checked. -/
def Enumeration.checks (e : Enumeration) : List Check :=
  [.name e.name]

/-- A datamodel has its models checked, then its enumerations. -/
def Datamodel.checks (datamodel : Datamodel) : List Check :=
  datamodel.models.flatMap Model.checks ++ datamodel.enums.flatMap Enumeration.checks

/-- An operation has its name checked, then its verb. -/
def Operation.checks (operation : Operation) : List Check :=
  [.name operation.name, .verb operation.name]

/-- All checks of a document, in the order in which they are made. -/
def checks (document : Document) : List Check :=
  document.datamodel.checks ++ document.queries.flatMap Operation.checks ++
    document.mutations.flatMap Operation.checks

end Document

/-! ## Every part fails like its first failing check -/

open Check (firstFailure?)

variable {options : Options} (verbs : List String)

/-- The forms of a name fail like the check of the name. -/
theorem Name.failure?_tracedForms (name : String) :
    (Name.tracedForms name).failure? = (Check.name name).failure? verbs :=
  rfl

/-- A field fails like the first of its checks that fails. -/
theorem Field.failure?_build (modelName : String) (source : Document.Field) :
    (Field.build modelName source).failure? = firstFailure? verbs source.checks := by
  rw [Document.Field.checks, Check.firstFailure?_singleton]
  exact (failure?_bind fun _ => failure?_pure _).trans Option.or_none

/-- Taking the directive of a model fails like the check of the directive. -/
theorem Model.failure?_takeDirective (source : Document.Model) :
    (takeDirective source).failure? =
      (Check.directive source.name source.documentation).failure? verbs := by
  rw [Traced.failure?, outcome_takeDirective, Check.failure?]

/-- A model fails like the first of its checks that fails. -/
theorem Model.failure?_build (source : Document.Model) :
    (build options source).failure? = firstFailure? verbs source.checks := by
  calc (build options source).failure?
      = (Name.tracedForms source.name).failure?.or
          ((each (Field.build source.name) source.fields).failure?.or
            ((takeDirective source).failure?.or none)) :=
        failure?_bind fun _ => failure?_bind fun _ => failure?_bind fun _ => rfl
    _ = firstFailure? verbs source.checks := by
        rw [Check.failure?_each (Field.failure?_build verbs source.name),
          failure?_takeDirective verbs, Name.failure?_tracedForms verbs, Option.or_none,
          ← Option.or_assoc]
        simp only [Document.Model.checks, Check.firstFailure?_append,
          Check.firstFailure?_singleton]

/-- An enumeration fails like the first of its checks that fails. -/
theorem Enumeration.failure?_build (source : Document.Enumeration) :
    (build source).failure? = firstFailure? verbs source.checks := by
  rw [Document.Enumeration.checks, Check.firstFailure?_singleton]
  exact (failure?_bind fun _ => failure?_pure _).trans Option.or_none

/-- A datamodel fails like the first of its checks that fails. -/
theorem Datamodel.failure?_build (source : Document.Datamodel) :
    (build options source).failure? = firstFailure? verbs source.checks := by
  calc (build options source).failure?
      = (each (Model.build options) source.models).failure?.or
          ((each Enumeration.build source.enums).failure?.or none) :=
        failure?_bind fun _ => failure?_bind fun _ => rfl
    _ = firstFailure? verbs source.checks := by
        rw [Check.failure?_each (Model.failure?_build verbs),
          Check.failure?_each (Enumeration.failure?_build verbs), Option.or_none,
          Document.Datamodel.checks, Check.firstFailure?_append]

/-- An action fails like the first of its checks that fails. -/
theorem Action.failure?_build (models : List Model) (source : Document.Operation) :
    (build options verbs models source).failure? = firstFailure? verbs source.checks := by
  calc (build options verbs models source).failure?
      = (Name.tracedForms source.name).failure?.or
          ((Check.verb source.name).failure? verbs) := by
        refine failure?_bind fun names => ?_
        rw [Check.failure?]
        cases Verb.find? verbs source.name <;> rfl
    _ = firstFailure? verbs source.checks := by
        rw [Name.failure?_tracedForms verbs, ← Check.firstFailure?_singleton,
          ← Check.firstFailure?_singleton, ← Check.firstFailure?_append]
        rfl

/-- A graph fails like the first check of its document that fails. -/
theorem Graph.failure?_ofDocument (document : Document) :
    (ofDocument options verbs document).failure? = firstFailure? verbs document.checks := by
  calc (ofDocument options verbs document).failure?
      = (Datamodel.build options document.datamodel).failure?.or
          ((firstFailure? verbs (document.queries.flatMap Document.Operation.checks)).or
            ((firstFailure? verbs (document.mutations.flatMap Document.Operation.checks)).or
              none)) := by
        rw [ofDocument_eq, failure?_log_bind]
        refine failure?_bind fun datamodel => ?_
        -- The models decide what an action is linked to, but not whether it is built.
        have hactions : ∀ operations : List Document.Operation,
            (each (Action.build options verbs datamodel.models) operations).failure? =
              firstFailure? verbs (operations.flatMap Document.Operation.checks) :=
          Check.failure?_each (Action.failure?_build verbs datamodel.models)
        rw [failure?_log_bind, ← hactions, ← hactions]
        exact failure?_bind fun _ => failure?_bind fun _ => rfl
    _ = firstFailure? verbs document.checks := by
        rw [Datamodel.failure?_build verbs, Option.or_none, ← Option.or_assoc, Document.checks,
          Check.firstFailure?_append, Check.firstFailure?_append]

/-! ## Documents that are built -/

/-- All names of a document that need forms. -/
def Document.names (document : Document) : List String :=
  document.datamodel.models.map Model.name ++
    document.datamodel.models.flatMap (fun m => m.fields.map Field.name) ++
    document.datamodel.enums.map Enumeration.name ++
    (document.queries ++ document.mutations).map Operation.name

/-- Nothing keeps a document from being built: no camel case of a name has a line break before its
last letter, no first marker has an unknown tag, and every operation has a verb in its name. -/
@[mk_iff]
structure Document.Buildable (verbs : List String) (document : Document) : Prop where
  names : ∀ name ∈ document.names, '\n' ∉ (Name.camel name).toList.dropLast
  tags : ∀ source ∈ document.datamodel.models, ∀ text, source.documentation = some text →
    ∀ before m rest, StandsFirst text.toList before m rest → m.tag = Directive.importTag.toList
  verbs : ∀ operation ∈ document.queries ++ document.mutations,
    ∃ verb ∈ verbs, Text.occurs verb operation.name = true

namespace Check

variable {verbs : List String}

/-- A check does not fail. -/
def Passes (verbs : List String) (check : Check) : Prop :=
  ∀ failure, ¬ check.FailsWith verbs failure

/-- What is computed of a check is nothing exactly when it passes. -/
theorem failure?_eq_none_iff {check : Check} :
    check.failure? verbs = none ↔ check.Passes verbs := by
  simp only [Option.eq_none_iff_forall_ne_some, Passes, ← failure?_eq_some_iff, ne_eq]

theorem passes_name_iff {base : String} :
    (Check.name base).Passes verbs ↔ '\n' ∉ (Name.camel base).toList.dropLast := by
  simp [Passes, ← failure?_eq_some_iff, failure?_name_eq_some_iff]

theorem passes_directive_iff {model : String} {documentation : Option String} :
    (Check.directive model documentation).Passes verbs ↔ ∀ text, documentation = some text →
      ∀ before m rest, StandsFirst text.toList before m rest →
        m.tag = Directive.importTag.toList := by
  simp only [Passes, ← failure?_eq_some_iff, failure?_directive_eq_some_iff]
  constructor
  · intro h text htext before m rest hfirst
    by_contra htag
    exact h _ ⟨text, before, m, rest, htext, hfirst, htag, rfl⟩
  · rintro h failure ⟨text, before, m, rest, htext, hfirst, htag, -⟩
    exact htag (h text htext before m rest hfirst)

theorem passes_verb_iff {action : String} :
    (Check.verb action).Passes verbs ↔ ∃ verb ∈ verbs, Text.occurs verb action = true := by
  simp [Passes, ← failure?_eq_some_iff, failure?_verb_eq_some_iff]

end Check

/-- A document is buildable exactly when all of its checks pass. -/
theorem Document.buildable_iff_checks_pass {document : Document} :
    document.Buildable verbs ↔ ∀ check ∈ document.checks, check.Passes verbs := by
  rw [buildable_iff]
  simp only [Document.names, Document.checks, Datamodel.checks, Model.checks, Field.checks,
    Enumeration.checks, Operation.checks, List.forall_mem_append, List.forall_mem_flatMap,
    List.forall_mem_map, List.forall_mem_cons, List.not_mem_nil, IsEmpty.forall_iff, implies_true,
    and_true, forall_and, Check.passes_name_iff, Check.passes_directive_iff,
    Check.passes_verb_iff]
  -- The same conditions on both sides, by what they are about and in the order of the checks.
  constructor
  · rintro ⟨⟨⟨⟨hmodels, hfields⟩, henums⟩, hqueries, hmutations⟩, htags, hqueryVerbs,
      hmutationVerbs⟩
    exact ⟨⟨⟨⟨⟨hmodels, hfields⟩, htags⟩, henums⟩, hqueries, hqueryVerbs⟩, hmutations,
      hmutationVerbs⟩
  · rintro ⟨⟨⟨⟨⟨hmodels, hfields⟩, htags⟩, henums⟩, hqueries, hqueryVerbs⟩, hmutations,
      hmutationVerbs⟩
    exact ⟨⟨⟨⟨hmodels, hfields⟩, henums⟩, hqueries, hmutations⟩, htags, hqueryVerbs,
      hmutationVerbs⟩

namespace Check

/-- The detail of a report that says what a check was about. -/
def subject? : Check → Option (String × String)
  | .name _ => none
  | .directive model _ => some ("model", model)
  | .verb action => some ("action", action)

end Check

/-- A failure has a report with a detail in its context. -/
def Failure.Tells (failure : Failure) (detail : String × String) : Prop :=
  ∃ report, failure.report = .ok report ∧
    (.text detail.1, .text detail.2) ∈ report.context

/-- A failed check tells what it was about, if that has a name at all. -/
theorem Check.FailsWith.tells {check : Check} {failure : Failure}
    (h : check.FailsWith verbs failure) {detail : String × String}
    (hdetail : check.subject? = some detail) (hne : detail.2 ≠ "") : failure.Tells detail := by
  cases h with
  | name => cases hdetail
  | directive hfirst htag =>
      cases hdetail
      refine ⟨_, rfl, ?_⟩
      have htagNe := hfirst.wellFormed.tag_ne_nil
      simp [Report.plain, Report.addDetails, Value.truthy, Scalar.truthy, hne, htagNe, Entries.put,
        Scalar.sameKey]
  | verb hnone =>
      cases hdetail
      refine ⟨_, rfl, ?_⟩
      simp [Report.plain, Report.addDetails, Value.truthy, Scalar.truthy, hne, Entries.put]

/-! ## The outcome of a build -/

namespace Graph

/-- Building a graph from a value that describes a document fails like the first check of that
document that fails. -/
theorem failure?_build {raw : Value} {document : Document}
    (hdocument : Graph.document raw = .ok document) :
    (build options verbs raw).failure? = firstFailure? verbs document.checks := by
  -- Nothing is logged or added around the graph that could fail.
  have hgraph : (build options verbs raw).failure? =
      (ofDocument options verbs document).failure?.or none := by
    rw [build, hdocument, failure?_logAll_bind, failure?_ofExcept_ok_bind]
    exact failure?_bind fun _ => rfl
  rw [hgraph, Option.or_none, failure?_ofDocument]

/-- A document gives a graph exactly when nothing keeps it from being built. It fails with exactly
the failure of its earliest failing check, and such a failure tells which model or action the check
was about. -/
theorem build_fails_at_first_check {raw : Value} {document : Document}
    (hdocument : Graph.document raw = .ok document) :
    ((∃ g, (build options verbs raw).outcome = .ok g) ↔ document.Buildable verbs) ∧
    ∀ failure, (build options verbs raw).outcome = .error failure ↔
      ∃ before check after, document.checks = before ++ check :: after ∧
        (∀ earlier ∈ before, earlier.Passes verbs) ∧ check.FailsWith verbs failure ∧
        ∀ detail, check.subject? = some detail → detail.2 ≠ "" → failure.Tells detail := by
  have hfailure : (build options verbs raw).failure? = firstFailure? verbs document.checks :=
    failure?_build verbs hdocument
  constructor
  · rw [← failureOf?_eq_none_iff, ← Traced.failure?, hfailure, Document.buildable_iff_checks_pass]
    simp only [firstFailure?, List.findSome?_eq_none_iff, Check.failure?_eq_none_iff]
  · intro failure
    rw [← failureOf?_eq_some_iff, ← Traced.failure?, hfailure, firstFailure?,
      List.findSome?_eq_some_iff]
    simp only [Check.failure?_eq_some_iff, Check.failure?_eq_none_iff]
    constructor
    · rintro ⟨before, check, after, hchecks, hfails, hpass⟩
      exact ⟨before, check, after, hchecks, hpass, hfails, fun _ => hfails.tells⟩
    · rintro ⟨before, check, after, hchecks, hpass, hfails, -⟩
      exact ⟨before, check, after, hchecks, hfails, hpass⟩

/-- A document of two models, with operations behind them that have no verbs. The first "Query" type
is replaced by the second one. -/
def faulty (documentation : Option String) (name : String) : Document :=
  { Document.ofTypes [("Query", ["obtainPost"]), ("Query", ["findManyUser", "obtainUser"]),
      ("Mutation", ["alterUser"])] with
    datamodel :=
      { models := [{ Document.Model.plain "User" [] with documentation }, .plain name []]
        enums := [] } }

/-- The directive of a model comes before the name of a later one, and that before the operations. Of
these the first one without a verb counts, in the second "Query" type. -/
theorem build_faulty_fails_first :
    let outcome := fun d : Document => (build .default Verb.all d.toValue).outcome
    outcome (faulty (some "@zod.omit([x])") "a\nb") = .error (.unknownTag "User" "omit") ∧
      (Failure.unknownTag "User" "omit").Tells ("model", "User") ∧
      outcome (faulty none "a\nb") = .error (.name .lineBreakInName) ∧
      outcome (faulty none "Post") = .error (.unknownVerb "obtainUser") ∧
      (Failure.unknownVerb "obtainUser").Tells ("action", "obtainUser") ∧
      ¬ (faulty none "Post").Buildable Verb.all := by
  intro outcome
  have hfirst : ∀ d before check after failure, Graph.document d.toValue = .ok d →
      d.checks = before ++ check :: after →
      (∀ earlier ∈ before, (earlier.failure? Verb.all).isNone = true) →
      check.failure? Verb.all = some failure →
      outcome d = .error failure ∧
        ∀ detail, check.subject? = some detail → detail.2 ≠ "" → failure.Tells detail := by
    intro d before check after failure hdocument hchecks hpass hfails
    have hcheck := Check.failure?_eq_some_iff.1 hfails
    have htells : ∀ detail, check.subject? = some detail → detail.2 ≠ "" → failure.Tells detail :=
      fun _ => hcheck.tells Verb.all
    refine ⟨((build_fails_at_first_check Verb.all hdocument).2 failure).2
      ⟨before, check, after, hchecks, fun earlier hmem => ?_, hcheck, htells⟩, htells⟩
    exact Check.failure?_eq_none_iff.1 (Option.isNone_iff_eq_none.1 (hpass earlier hmem))
  obtain ⟨htag, htagTells⟩ := hfirst (faulty (some "@zod.omit([x])") "a\nb") [.name "User"]
    (.directive "User" (some "@zod.omit([x])")) _ (.unknownTag "User" "omit") rfl rfl (by decide) rfl
  obtain ⟨hname, -⟩ := hfirst (faulty none "a\nb") [.name "User", .directive "User" none]
    (.name "a\nb") _ (.name .lineBreakInName) rfl rfl (by decide) rfl
  obtain ⟨hverb, hverbTells⟩ := hfirst (faulty none "Post")
    [.name "User", .directive "User" none, .name "Post", .directive "Post" none,
      .name "findManyUser", .verb "findManyUser", .name "obtainUser"]
    (.verb "obtainUser") _ (.unknownVerb "obtainUser") rfl rfl (by decide) rfl
  refine ⟨htag, htagTells _ rfl (by decide), hname, hverb, hverbTells _ rfl (by decide),
    fun hbuildable => ?_⟩
  have hdocument : Graph.document (faulty none "Post").toValue = .ok (faulty none "Post") := rfl
  obtain ⟨g, hg⟩ := (build_fails_at_first_check Verb.all hdocument).1.2 hbuildable
  cases hverb.symm.trans hg

end Graph

end ModelGraph
