import ModelGraph.Proofs.Graph.Checks
import ModelGraph.Proofs.Log.Records

/-!
# The course of a build

Every part of a graph notes its result when it is built, and a part that fails logs nothing of its
own. So the log of a build shows how far the build came: `course_build` gives the whole log in each
of the four ways in which a build can go, and `Course.entry` says what a single record of it is
about.
-/

namespace ModelGraph

open Traced

variable {options : Options} {verbs : List String}

/-! ## Models and the datamodel -/

theorem Field.records_build (modelName : String) (source : Document.Field) :
    (Field.build modelName source).records = [] :=
  records_bind_pure _ _

theorem Enumeration.records_build (source : Document.Enumeration) :
    (Enumeration.build source).records = [] :=
  records_bind_pure _ _

namespace Model

/-- The note on a directive that has no statements. -/
def directiveNote (model : String) : Log.Record :=
  ⟨.directive, .debug, "Import directive without valid statements. " ++ modelLocation model⟩

/-- The note on a finished model, as a record. -/
def record (m : Model) : Log.Record :=
  ⟨.model, .debug, m.note⟩

theorem exists_note_eq (m : Model) : ∃ rest, m.note = "Model '" ++ rest := by
  unfold note
  simp only [String.append_assoc]
  exact ⟨_, rfl⟩

/-- The records on a finished model: those on its directive, then the one on itself. -/
def records (m : Model) : List Log.Record :=
  (takeDirective m.source).records ++ [m.record]

/-- Taking a directive logs the note on it at most. -/
theorem records_takeDirective (source : Document.Model) :
    (takeDirective source).records = [] ∨
      (takeDirective source).records = [directiveNote source.name] := by
  unfold takeDirective
  split
  · exact .inl rfl
  · exact .inl rfl
  · split
    · exact .inr rfl
    · exact .inl rfl

/-- A directive that is refused is not noted. -/
theorem records_takeDirective_of_error {source : Document.Model} {failure : Failure}
    (h : (takeDirective source).outcome = .error failure) :
    (takeDirective source).records = [] := by
  rw [outcome_takeDirective] at h
  rw [takeDirective, h]
  rfl

/-- A model that is built is noted last, and one that fails not at all. -/
theorem logs_build (options : Options) (source : Document.Model) :
    (build options source).Logs records := by
  have hfields : (each (Field.build source.name) source.fields).records = [] :=
    records_each_of_silent (Field.records_build source.name) source.fields
  refine Logs.bind rfl fun names _ => Logs.bind hfields fun fields _ => ?_
  cases houtcome : (takeDirective source).outcome with
  | error failure =>
      rw [Logs, records_bind_of_error houtcome, outcome_bind, houtcome]
      exact records_takeDirective_of_error houtcome
  | ok directive =>
      rw [Logs, records_bind_of_ok houtcome, outcome_bind, houtcome]
      rfl

end Model

namespace Datamodel

/-- The note on a finished datamodel, as a record. -/
def record (d : Datamodel) : Log.Record :=
  ⟨.datamodel, .debug, d.note⟩

theorem exists_note_eq (d : Datamodel) : ∃ rest, d.note = "Datamodel built: " ++ rest := by
  unfold note
  simp only [String.append_assoc]
  exact ⟨_, rfl⟩

/-- The records on a finished datamodel: those on its models, then the one on itself. -/
def records (d : Datamodel) : List Log.Record :=
  d.models.flatMap Model.records ++ [d.record]

/-- Some model or enumeration of a document cannot be built. -/
def PartFails (options : Options) (source : Document.Datamodel) : Prop :=
  (∃ model ∈ source.models, (Model.build options model).Fails) ∨
    ∃ enum ∈ source.enums, (Enumeration.build enum).Fails

/-- A datamodel fails when one of its parts does. -/
theorem fails_build_iff {source : Document.Datamodel} :
    (build options source).Fails ↔ PartFails options source := by
  have hlast : ∀ models, (do
      let enums ← each Enumeration.build source.enums
      let datamodel : Datamodel := { models, enums }
      Traced.log .datamodel .debug datamodel.note
      return datamodel : Traced Failure Datamodel).failure? =
        (each Enumeration.build source.enums).failure?.or none :=
    fun models => failure?_bind fun enums => rfl
  rw [PartFails, build, fails_bind_iff hlast, fails_each_iff, Option.or_none, ← fails_iff,
    fails_each_iff]

/-- A datamodel that fails has logged what it had built of its models. -/
theorem records_build_of_error {source : Document.Datamodel} {failure : Failure}
    (h : (build options source).outcome = .error failure) :
    (build options source).records =
      (finished (Model.build options) source.models).flatMap Model.records := by
  have hmodels : (each (Model.build options) source.models).records =
      (finished (Model.build options) source.models).flatMap Model.records :=
    records_each (Model.logs_build options) source.models
  have henums : (each Enumeration.build source.enums).records = [] :=
    records_each_of_silent Enumeration.records_build source.enums
  rw [build, outcome_bind] at h
  rw [← hmodels, build]
  cases hfirst : (each (Model.build options) source.models).outcome with
  | error failure => exact records_bind_of_error hfirst
  | ok models =>
      rw [hfirst] at h
      rw [records_bind_of_ok hfirst]
      cases hsecond : (each Enumeration.build source.enums).outcome with
      | error failure => rw [records_bind_of_error hsecond, henums, List.append_nil]
      | ok enums =>
          have hfails : (each Enumeration.build source.enums >>= _).outcome = .error failure := h
          rw [outcome_bind, hsecond] at hfails
          cases hfails

/-- A datamodel that is built has logged what it is made of. -/
theorem records_build_of_ok {source : Document.Datamodel} {d : Datamodel}
    (h : (build options source).outcome = .ok d) : (build options source).records = d.records := by
  obtain ⟨hmodels, henums⟩ := build_eq_ok_iff.1 h
  rw [build, records_bind_of_ok (outcome_each_eq_ok_iff.2 hmodels),
    records_bind_of_ok (outcome_each_eq_ok_iff.2 henums),
    records_each (Model.logs_build options), finished_of_forall₂ hmodels,
    records_each_of_silent Enumeration.records_build]
  rfl

end Datamodel

/-! ## Actions -/

namespace Action

/-- The note on a finished action, as a record. -/
def record (a : Action) : Log.Record :=
  ⟨.action, .debug, a.note⟩

theorem exists_note_eq (a : Action) : ∃ rest, a.note = "Action '" ++ rest := by
  unfold note
  simp only [String.append_assoc]
  exact ⟨_, rfl⟩

/-- An action that is built is noted, and one that fails is not. -/
theorem logs_build (options : Options) (verbs : List String) (models : List Model)
    (source : Document.Operation) :
    (build options verbs models source).Logs fun a => [a.record] := by
  refine Logs.bind rfl fun names _ => ?_
  cases Verb.find? verbs source.name with
  | none => rfl
  | some verb => rfl

end Action

/-! ## The course of a build -/

namespace Graph

/-- A record on the build as a whole. -/
def record (message : String) : Log.Record :=
  ⟨.graph, .info, message⟩

/-- The records with which every build begins. -/
def opening : List Log.Record :=
  (Log.sectionLines "Building DMMF graph").map record

/-- The record of a line around the title. -/
def separatorRecord : Log.Record :=
  record Log.separator

/-- The record of the title. -/
def titleRecord : Log.Record :=
  record ("  " ++ String.ofList (Text.upper "Building DMMF graph".toList))

theorem mem_opening {r : Log.Record} (h : r ∈ opening) : r = separatorRecord ∨ r = titleRecord := by
  have hopening : opening = [separatorRecord, titleRecord, separatorRecord] := rfl
  rw [hopening] at h
  simp only [List.mem_cons, List.not_mem_nil, or_false] at h
  rcases h with h | h | h
  · exact .inl h
  · exact .inr h
  · exact .inl h

/-- The record at the start of the first phase. -/
def modelsRecord : Log.Record :=
  record (Log.progress "Building models...")

/-- The record at the start of the second phase. -/
def actionsRecord : Log.Record :=
  record (Log.progress "Linking actions...")

/-- The record on a finished graph. -/
def successRecord (g : Graph) : Log.Record :=
  record (Log.success g.summary.message)

/-- The models that are built of a value, up to the first failure. -/
def builtModels (options : Options) (raw : Value) : List Model :=
  match document raw with
  | .error _ => []
  | .ok d => finished (Model.build options) d.datamodel.models

/-- The actions that are built of a value, up to the first failure. -/
def builtActions (options : Options) (verbs : List String) (raw : Value) : List Action :=
  match document raw with
  | .error _ => []
  | .ok d =>
    match (Datamodel.build options d.datamodel).outcome with
    | .error _ => []
    | .ok datamodel => finished (Action.build options verbs datamodel.models) d.operations

/-- What a build logs at its end. -/
def ending : Except Failure Graph → List Log.Record
  | .error _ => []
  | .ok g => [g.successRecord]

/-- How the build of a value can go: which models and actions are built on the way, what is logged
before the end, and what comes of it. -/
inductive Course (options : Options) (verbs : List String) (raw : Value) :
    List Model → List Action → List Log.Record → Except Failure Graph → Prop
  /-- The value describes no document. -/
  | malformed {failure : Failure} : document raw = .error failure →
      Course options verbs raw [] [] opening (.error failure)
  /-- A model or an enumeration fails. -/
  | datamodel {d : Document} {models : List Model} {failure : Failure} : document raw = .ok d →
      (Datamodel.build options d.datamodel).outcome = .error failure →
      Course options verbs raw models []
        (opening ++ modelsRecord :: models.flatMap Model.records) (.error failure)
  /-- The datamodel is built, but an action fails. -/
  | actions {d : Document} {datamodel : Datamodel} {actions : List Action} {failure : Failure} :
      document raw = .ok d → (Datamodel.build options d.datamodel).outcome = .ok datamodel →
      (∃ operation ∈ d.operations,
        (Action.build options verbs datamodel.models operation).Fails) →
      Course options verbs raw datamodel.models actions
        (opening ++ modelsRecord :: (datamodel.records ++
          actionsRecord :: actions.map Action.record)) (.error failure)
  /-- There is a graph. -/
  | complete {d : Document} {g : Graph} : document raw = .ok d →
      (ofDocument options verbs d).outcome = .ok g →
      Course options verbs raw g.datamodel.models g.actions
        (opening ++ modelsRecord :: (g.datamodel.records ++
          actionsRecord :: g.actions.map Action.record)) (.ok g)

/-- The second phase logs the notes on the actions up to the first one that fails. -/
theorem records_ofDatamodel (options : Options) (verbs : List String) (datamodel : Datamodel)
    (d : Document) :
    (ofDatamodel options verbs datamodel d.queries d.mutations).records =
      (finished (Action.build options verbs datamodel.models) d.operations).map Action.record := by
  rw [ofDatamodel, records_each_each (Action.logs_build options verbs datamodel.models),
    List.map_eq_flatMap]
  rfl

section Phases

variable {d : Document} {datamodel : Datamodel} {g : Graph} {failure : Failure}

/-- Without a datamodel there is no second phase. -/
theorem records_ofDocument_of_error (verbs : List String)
    (h : (Datamodel.build options d.datamodel).outcome = .error failure) :
    (ofDocument options verbs d).records =
        modelsRecord :: (finished (Model.build options) d.datamodel.models).flatMap Model.records ∧
      (ofDocument options verbs d).outcome = .error failure := by
  constructor
  · rw [ofDocument_eq, records_log_bind, records_bind_of_error h, Datamodel.records_build_of_error h]
    rfl
  · rw [ofDocument_eq, outcome_log_bind, outcome_bind, h]
    rfl

/-- With a datamodel the second phase decides. -/
theorem records_ofDocument_of_ok (verbs : List String)
    (h : (Datamodel.build options d.datamodel).outcome = .ok datamodel) :
    (ofDocument options verbs d).records =
        modelsRecord :: (datamodel.records ++ actionsRecord ::
          (finished (Action.build options verbs datamodel.models) d.operations).map
            Action.record) ∧
      (ofDocument options verbs d).outcome =
        (ofDatamodel options verbs datamodel d.queries d.mutations).outcome := by
  constructor
  · rw [← records_ofDatamodel, ofDocument_eq, records_log_bind, records_bind_of_ok h,
      Datamodel.records_build_of_ok h]
    rfl
  · rw [ofDocument_eq, outcome_log_bind, outcome_bind, h]
    rfl

/-- The outcome of a document is that of the value that describes it, and decides what is logged
at the end. -/
theorem records_build (options : Options) (verbs : List String) {raw : Value}
    (hdocument : document raw = .ok d) :
    (build options verbs raw).records = opening ++ (ofDocument options verbs d).records ++
        ending (ofDocument options verbs d).outcome ∧
      (build options verbs raw).outcome = (ofDocument options verbs d).outcome := by
  rw [build, hdocument, records_logAll_bind, List.append_assoc]
  cases h : (ofDocument options verbs d).outcome with
  | error failure =>
      constructor
      · rw [ending, List.append_nil]
        exact congrArg _ (records_bind_of_error h)
      · show (ofDocument options verbs d >>= _).outcome = _
        rw [outcome_bind, h]
        rfl
  | ok g =>
      constructor
      · exact congrArg _ (records_bind_of_ok h)
      · show (ofDocument options verbs d >>= _).outcome = _
        rw [outcome_bind, h]
        rfl

end Phases

/-- What is built and logged of a value, and what comes of it, is one of the courses. -/
theorem course_build (options : Options) (verbs : List String) (raw : Value) :
    ∃ body,
      (build options verbs raw).records = body ++ ending (build options verbs raw).outcome ∧
      Course options verbs raw (builtModels options raw) (builtActions options verbs raw) body
        (build options verbs raw).outcome := by
  cases hdocument : document raw with
  | error failure =>
      have hbuild : (build options verbs raw).records = opening ∧
          (build options verbs raw).outcome = .error failure := by
        rw [build, hdocument]
        exact ⟨rfl, rfl⟩
      simp only [builtModels, builtActions, hdocument, hbuild]
      exact ⟨opening, (List.append_nil _).symm, .malformed hdocument⟩
  | ok d =>
      have hbuild := records_build options verbs hdocument
      refine ⟨opening ++ (ofDocument options verbs d).records, by rw [hbuild.2, hbuild.1], ?_⟩
      cases hdatamodel : (Datamodel.build options d.datamodel).outcome with
      | error failure =>
          obtain ⟨hrecords, houtcome⟩ := records_ofDocument_of_error verbs hdatamodel
          simp only [builtModels, builtActions, hdocument, hdatamodel, hbuild, hrecords, houtcome]
          exact .datamodel hdocument hdatamodel
      | ok datamodel =>
          obtain ⟨hrecords, houtcome⟩ := records_ofDocument_of_ok verbs hdatamodel
          have hmodels := finished_of_forall₂ (Datamodel.build_eq_ok_iff.1 hdatamodel).1
          simp only [builtModels, builtActions, hdocument, hdatamodel, hbuild, hrecords, hmodels]
          cases hlast : (ofDatamodel options verbs datamodel d.queries d.mutations).outcome with
          | error failure =>
              rw [houtcome, hlast]
              exact .actions hdocument hdatamodel (fails_each_each_iff.1 ⟨failure, hlast⟩)
          | ok g =>
              have hgraph := houtcome.trans hlast
              obtain ⟨-, hsame, hqueries, hmutations⟩ := ofDocument_eq_ok_iff.1 hgraph
              obtain rfl : datamodel = g.datamodel := Except.ok.inj (hdatamodel.symm.trans hsame)
              have hactions : finished (Action.build options verbs g.datamodel.models)
                  d.operations = g.actions :=
                finished_of_forall₂ (List.rel_append hqueries hmutations)
              rw [hgraph, hactions]
              exact .complete hdocument hgraph

/-! ## Single records -/

/-- What a record of a build is about, the one on a finished graph apart. -/
inductive Entry (options : Options) (verbs : List String) (raw : Value) : Log.Record → Prop
  | opening {r : Log.Record} : r ∈ opening → Entry options verbs raw r
  | phase {r : Log.Record} : r = modelsRecord ∨ r = actionsRecord → Entry options verbs raw r
  | directive {m : Model} : m ∈ builtModels options raw →
      Entry options verbs raw (Model.directiveNote m.name)
  | model {m : Model} : m ∈ builtModels options raw → Entry options verbs raw m.record
  | datamodel (d : Datamodel) : Entry options verbs raw d.record
  | action {a : Action} : a ∈ builtActions options verbs raw → Entry options verbs raw a.record

/-- The records on models are notes on them and on their directives. -/
theorem entry_of_mem_modelRecords {raw : Value} {models : List Model}
    (h : ∀ m ∈ models, m ∈ builtModels options raw) {r : Log.Record}
    (hr : r ∈ models.flatMap Model.records) : Entry options verbs raw r := by
  obtain ⟨m, hm, hr⟩ := List.mem_flatMap.1 hr
  rcases List.mem_append.1 hr with hr | hr
  · rcases Model.records_takeDirective m.source with hnone | hnote
    · rw [hnone] at hr
      exact absurd hr List.not_mem_nil
    · rw [hnote, List.mem_singleton] at hr
      rw [hr]
      exact .directive (h m hm)
  · rw [List.mem_singleton.1 hr]
    exact .model (h m hm)

/-- Every record before the end is about something that was built, or about the build as a whole. -/
theorem Course.entry {raw : Value} {body : List Log.Record} {outcome : Except Failure Graph}
    (h : Course options verbs raw (builtModels options raw) (builtActions options verbs raw) body
      outcome) {r : Log.Record} (hr : r ∈ body) : Entry options verbs raw r := by
  generalize hmodels : builtModels options raw = models at h
  generalize hactions : builtActions options verbs raw = actions at h
  have hmodel : ∀ {r}, r ∈ models.flatMap Model.records → Entry options verbs raw r :=
    fun hr => entry_of_mem_modelRecords (fun m hm => hmodels.symm ▸ hm) hr
  have haction : ∀ {r}, r ∈ actions.map Action.record → Entry options verbs raw r := by
    intro r hr
    obtain ⟨a, ha, rfl⟩ := List.mem_map.1 hr
    exact .action (hactions.symm ▸ ha)
  cases h with
  | malformed _ => exact .opening hr
  | datamodel _ _ =>
      simp only [List.mem_append, List.mem_cons] at hr
      rcases hr with hr | hr | hr
      · exact .opening hr
      · exact .phase (.inl hr)
      · exact hmodel hr
  | actions _ _ _ | complete _ _ =>
      simp only [List.mem_append, List.mem_cons, Datamodel.records, List.not_mem_nil,
        or_false] at hr
      rcases hr with hr | hr | (hr | rfl) | hr | hr
      · exact .opening hr
      · exact .phase (.inl hr)
      · exact hmodel hr
      · exact .datamodel _
      · exact .phase (.inr hr)
      · exact haction hr

end Graph

end ModelGraph
