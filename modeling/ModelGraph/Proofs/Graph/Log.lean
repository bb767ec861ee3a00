import ModelGraph.Proofs.Graph.Course

/-!
# What the log of a build tells

`log_tells_outcome` says what can be told from the log of a build alone: whether there is a graph,
what its counts are, in which phase the build failed, and which models and actions it had built by
then. It is read off the course of the build.
-/

namespace ModelGraph.Graph

open Traced

variable {options : Options} {verbs : List String}

/-- No record before the end begins with the mark of success. -/
theorem Entry.not_begins_successMark {raw : Value} {r : Log.Record}
    (h : Entry options verbs raw r) : ¬ r.Begins Log.successMark := by
  cases h with
  | opening hr =>
      rcases mem_opening hr with rfl | rfl
      · decide
      · decide
  | phase hr => rcases hr with rfl | rfl <;> decide
  | directive _ => exact (Log.Record.begins_iff ⟨_, rfl⟩ (by decide)).not.2 (by decide)
  | @model m _ => exact (Log.Record.begins_iff m.exists_note_eq (by decide)).not.2 (by decide)
  | datamodel d => exact (Log.Record.begins_iff d.exists_note_eq (by decide)).not.2 (by decide)
  | @action a _ => exact (Log.Record.begins_iff a.exists_note_eq (by decide)).not.2 (by decide)

/-! ## Parts of a log -/

/-- Whatever leaves out the notes on directives takes of the records on models those on the models
themselves. -/
theorem filter_modelRecords {p : Log.Record → Bool}
    (h : ∀ model, p (Model.directiveNote model) = false) (models : List Model) :
    (models.flatMap Model.records).filter p = (models.map Model.record).filter p := by
  induction models with
  | nil => rfl
  | cons m rest ih =>
      have hfirst : (Model.takeDirective m.source).records.filter p = [] := by
        rcases Model.records_takeDirective m.source with hnone | hnote
        · rw [hnone, List.filter_nil]
        · rw [hnote, List.filter_singleton, h]
          rfl
      rw [List.flatMap_cons, List.filter_append, ih, Model.records, List.filter_append, hfirst,
        List.nil_append, ← List.filter_append, List.singleton_append, List.map_cons]

/-- The records of the level of ordinary messages. -/
def infos (records : List Log.Record) : List Log.Record :=
  records.filter fun r => r.level = Log.Level.info

/-- The notes on models and actions, as far as the level and the front of a message tell. -/
def notes (records : List Log.Record) : List Log.Record :=
  records.filter fun r =>
    r.level = Log.Level.debug ∧ (r.Begins "Model " ∨ r.Begins "Action ")

theorem infos_append (records more : List Log.Record) :
    infos (records ++ more) = infos records ++ infos more :=
  List.filter_append ..

theorem notes_append (records more : List Log.Record) :
    notes (records ++ more) = notes records ++ notes more :=
  List.filter_append ..

/-- A record on the build as a whole is of the level of ordinary messages. -/
theorem infos_record_cons (message : String) (records : List Log.Record) :
    infos (record message :: records) = record message :: infos records :=
  rfl

theorem notes_record_cons (message : String) (records : List Log.Record) :
    notes (record message :: records) = notes records :=
  List.filter_cons_of_neg (by simp [record, Log.Level.info, Log.Level.debug])

theorem infos_opening : infos opening = opening := rfl

theorem notes_opening : notes opening = [] := by
  rw [opening, Log.sectionLines]
  simp only [List.map_cons, notes_record_cons]
  rfl

theorem infos_modelRecords (models : List Model) : infos (models.flatMap Model.records) = [] := by
  rw [infos, filter_modelRecords fun _ => rfl, List.filter_eq_nil_iff, List.forall_mem_map]
  intro m _
  show ¬ decide (Log.Level.debug = Log.Level.info) = true
  decide

theorem infos_actionRecords (actions : List Action) : infos (actions.map Action.record) = [] := by
  rw [infos, List.filter_eq_nil_iff, List.forall_mem_map]
  intro a _
  show ¬ decide (Log.Level.debug = Log.Level.info) = true
  decide

theorem notes_modelRecords (models : List Model) :
    notes (models.flatMap Model.records) = models.map Model.record := by
  have hdirective : ∀ mark : String, mark = "Model " ∨ mark = "Action " → ∀ model,
      ¬ (Model.directiveNote model).Begins mark := by
    intro mark hmark model
    rcases hmark with rfl | rfl <;>
      exact (Log.Record.begins_iff ⟨_, rfl⟩ (by decide)).not.2 (by decide)
  have hmodel : ∀ m : Model, m.record.Begins "Model " := fun m =>
    (Log.Record.begins_iff m.exists_note_eq (by decide)).2 (by decide)
  rw [notes, filter_modelRecords, List.filter_eq_self, List.forall_mem_map]
  · exact fun m _ => decide_eq_true ⟨rfl, .inl (hmodel m)⟩
  · intro model
    simp [hdirective]

theorem notes_actionRecords (actions : List Action) :
    notes (actions.map Action.record) = actions.map Action.record := by
  rw [notes, List.filter_eq_self, List.forall_mem_map]
  intro a _
  have hbegins : a.record.Begins "Action " :=
    (Log.Record.begins_iff a.exists_note_eq (by decide)).2 (by decide)
  exact decide_eq_true ⟨rfl, .inr hbegins⟩

theorem infos_datamodelRecords (d : Datamodel) : infos d.records = [] := by
  rw [Datamodel.records, infos_append, infos_modelRecords]
  rfl

theorem notes_datamodelRecords (d : Datamodel) : notes d.records = d.models.map Model.record := by
  have hnot : ∀ mark : String, mark = "Model " ∨ mark = "Action " → ¬ d.record.Begins mark := by
    intro mark hmark
    rcases hmark with rfl | rfl <;>
      exact (Log.Record.begins_iff d.exists_note_eq (by decide)).not.2 (by decide)
  have hown : notes [d.record] = [] := by simp [notes, hnot]
  rw [Datamodel.records, notes_append, notes_modelRecords, hown, List.append_nil]

/-! ## What a log tells -/

/-- The phases of a build: the document is read, its datamodel is built, its actions are built. -/
inductive Phase where
  | reading
  | datamodel
  | actions
  deriving DecidableEq, Repr

/-- The records of the level of ordinary messages in a build that does not come beyond a phase. -/
def Phase.infos : Phase → List Log.Record
  | .reading => opening
  | .datamodel => opening ++ [modelsRecord]
  | .actions => opening ++ [modelsRecord, actionsRecord]

/-- The build of a value fails in a phase: the value describes no document, or a model or an
enumeration fails, or these are all built and an action fails. -/
inductive FailsIn (options : Options) (verbs : List String) (raw : Value) : Phase → Prop
  | reading {failure : Failure} : document raw = .error failure →
      FailsIn options verbs raw .reading
  | datamodel {d : Document} : document raw = .ok d → Datamodel.PartFails options d.datamodel →
      FailsIn options verbs raw .datamodel
  | actions {d : Document} {datamodel : Datamodel} : document raw = .ok d →
      (Datamodel.build options d.datamodel).outcome = .ok datamodel →
      (∃ operation ∈ d.operations,
        (Action.build options verbs datamodel.models operation).Fails) →
      FailsIn options verbs raw .actions

variable {raw : Value}

/-- A build fails in one phase only. -/
theorem FailsIn.unique {phase other : Phase} (h : FailsIn options verbs raw phase)
    (hother : FailsIn options verbs raw other) : phase = other := by
  cases h with
  | reading hfailure =>
      cases hother with
      | reading _ => rfl
      | datamodel hdocument _ => cases hfailure.symm.trans hdocument
      | actions hdocument _ _ => cases hfailure.symm.trans hdocument
  | datamodel hdocument hpart =>
      have hfails := Datamodel.fails_build_iff.2 hpart
      cases hother with
      | reading hfailure => cases hfailure.symm.trans hdocument
      | datamodel _ _ => rfl
      | actions hsame hdatamodel _ =>
          cases hdocument.symm.trans hsame
          exact absurd hdatamodel (hfails.outcome_ne_ok _)
  | actions hdocument hdatamodel _ =>
      cases hother with
      | reading hfailure => cases hfailure.symm.trans hdocument
      | datamodel hsame hpart =>
          cases hdocument.symm.trans hsame
          exact absurd hdatamodel ((Datamodel.fails_build_iff.2 hpart).outcome_ne_ok _)
      | actions _ _ _ => rfl

/-- A document that fails in a phase gives no graph. -/
theorem FailsIn.outcome_ne_ok {phase : Phase} (h : FailsIn options verbs raw phase) {d : Document}
    (hdocument : document raw = .ok d) (g : Graph) :
    (ofDocument options verbs d).outcome ≠ .ok g := by
  intro hgraph
  obtain ⟨-, hdatamodel, hqueries, hmutations⟩ := ofDocument_eq_ok_iff.1 hgraph
  cases h with
  | reading hfailure => cases hfailure.symm.trans hdocument
  | datamodel hsame hpart =>
      cases hdocument.symm.trans hsame
      exact (Datamodel.fails_build_iff.2 hpart).outcome_ne_ok _ hdatamodel
  | actions hsame hbuilt hfails =>
      cases hdocument.symm.trans hsame
      cases hdatamodel.symm.trans hbuilt
      have hall := outcome_each_eq_ok_iff.2 (List.rel_append hqueries hmutations)
      exact (fails_each_iff.2 hfails).outcome_ne_ok _ hall

/-- A course that ends without a graph shows the phase. -/
theorem Course.failsIn {models : List Model} {actions : List Action} {body : List Log.Record}
    {failure : Failure} (h : Course options verbs raw models actions body (.error failure)) :
    ∃ phase, FailsIn options verbs raw phase ∧ infos body = phase.infos := by
  cases h with
  | malformed hdocument => exact ⟨.reading, .reading hdocument, infos_opening⟩
  | datamodel hdocument hdatamodel =>
      refine ⟨.datamodel, .datamodel hdocument (Datamodel.fails_build_iff.1 ⟨_, hdatamodel⟩), ?_⟩
      rw [infos_append, infos_opening, modelsRecord, infos_record_cons, infos_modelRecords]
      rfl
  | actions hdocument hdatamodel hfails =>
      refine ⟨.actions, .actions hdocument hdatamodel hfails, ?_⟩
      rw [infos_append, infos_opening, modelsRecord, infos_record_cons, infos_append,
        infos_datamodelRecords, List.nil_append, actionsRecord, infos_record_cons,
        infos_actionRecords]
      rfl

/-- The notes in a log are those on the models and actions that were built. -/
theorem Course.notes_eq {models : List Model} {actions : List Action} {body : List Log.Record}
    {outcome : Except Failure Graph} (h : Course options verbs raw models actions body outcome) :
    notes body = models.map Model.record ++ actions.map Action.record := by
  cases h with
  | malformed _ => exact notes_opening
  | datamodel _ _ =>
      rw [notes_append, notes_opening, modelsRecord, notes_record_cons, notes_modelRecords]
      simp
  | actions _ _ _ | complete _ _ =>
      rw [notes_append, notes_opening, modelsRecord, notes_record_cons, notes_append,
        notes_datamodelRecords, actionsRecord, notes_record_cons, notes_actionRecords]
      simp

/-- A course that ends with a graph has built what is in it. -/
theorem Course.of_ok {models : List Model} {actions : List Action} {body : List Log.Record}
    {g : Graph} (h : Course options verbs raw models actions body (.ok g)) :
    models = g.datamodel.models ∧ actions = g.actions ∧
      ∀ phase, ¬ FailsIn options verbs raw phase := by
  cases h with
  | complete hdocument hgraph =>
      exact ⟨rfl, rfl, fun phase hfails => hfails.outcome_ne_ok hdocument g hgraph⟩

/-- A build fails when it fails in some phase. -/
theorem fails_build_iff :
    (build options verbs raw).Fails ↔ ∃ phase, FailsIn options verbs raw phase := by
  obtain ⟨body, -, hcourse⟩ := course_build options verbs raw
  rw [Traced.Fails]
  cases houtcome : (build options verbs raw).outcome with
  | error failure =>
      rw [houtcome] at hcourse
      obtain ⟨phase, hfails, -⟩ := hcourse.failsIn
      exact ⟨fun _ => ⟨phase, hfails⟩, fun _ => ⟨failure, rfl⟩⟩
  | ok g =>
      rw [houtcome] at hcourse
      obtain ⟨-, -, hnone⟩ := hcourse.of_ok
      constructor
      · rintro ⟨failure, hfailure⟩
        cases hfailure
      · rintro ⟨phase, hfails⟩
        exact absurd hfails (hnone phase)

/-- The phase in which a build fails shows in the records of the level of ordinary messages. -/
theorem infos_build {phase : Phase} (h : FailsIn options verbs raw phase) :
    infos (build options verbs raw).records = phase.infos := by
  obtain ⟨failure, houtcome⟩ := fails_build_iff.2 ⟨phase, h⟩
  obtain ⟨body, hlog, hcourse⟩ := course_build options verbs raw
  rw [houtcome] at hlog hcourse
  obtain ⟨other, hother, hinfos⟩ := hcourse.failsIn
  rw [hlog, ending, List.append_nil, hinfos, hother.unique h]

/-- The notes in the log of a build. -/
theorem notes_build :
    notes (build options verbs raw).records =
      (builtModels options raw).map Model.record ++
        (builtActions options verbs raw).map Action.record := by
  obtain ⟨body, hlog, hcourse⟩ := course_build options verbs raw
  have hending : notes (ending (build options verbs raw).outcome) = [] := by
    cases (build options verbs raw).outcome with
    | error failure => rfl
    | ok g => exact notes_record_cons _ []
  rw [hlog, notes_append, hending, List.append_nil, hcourse.notes_eq]

/-- The log of a build that gives a graph ends with the one record that begins with the mark of
success. -/
theorem records_build_of_graph {g : Graph} (h : (build options verbs raw).outcome = .ok g) :
    ∃ body, (build options verbs raw).records = body ++ [g.successRecord] ∧
      ∀ r ∈ body, ¬ r.Begins Log.successMark := by
  obtain ⟨body, hlog, hcourse⟩ := course_build options verbs raw
  rw [h] at hlog
  exact ⟨body, hlog, fun r hr => (hcourse.entry hr).not_begins_successMark⟩

/-- The mark of success tells that there is a graph. -/
theorem exists_begins_successMark_iff :
    (∃ r ∈ (build options verbs raw).records, r.Begins Log.successMark) ↔
      ∃ g, (build options verbs raw).outcome = .ok g := by
  constructor
  · rintro ⟨r, hr, hmark⟩
    obtain ⟨body, hlog, hcourse⟩ := course_build options verbs raw
    cases houtcome : (build options verbs raw).outcome with
    | error failure =>
        rw [hlog, houtcome, ending, List.append_nil] at hr
        exact absurd hmark (hcourse.entry hr).not_begins_successMark
    | ok g => exact ⟨g, rfl⟩
  · rintro ⟨g, hg⟩
    obtain ⟨body, hlog, -⟩ := records_build_of_graph hg
    have hmark : g.successRecord.Begins Log.successMark :=
      (Log.Record.begins_iff ⟨_, rfl⟩ (Nat.le_refl _)).2 (List.prefix_refl _)
    exact ⟨g.successRecord, by simp [hlog], hmark⟩

/-- The log of a build tells how the build went. It has a record that begins with the mark of
success exactly when there is a graph; that record is then the last one and tells the counts of it.
Otherwise the records of the level of ordinary messages tell the phase in which the build failed.
The notes are those on all models and actions that were built, in order. -/
theorem log_tells_outcome (options : Options) (verbs : List String) (raw : Value) :
    let log := (build options verbs raw).records
    let outcome := (build options verbs raw).outcome
    ((∃ r ∈ log, r.Begins Log.successMark) ↔ ∃ g, outcome = .ok g) ∧
      (∀ g, outcome = .ok g →
        (∃ body, log = body ++ [record (Log.successMark ++
            ("Graph built: " ++ toString g.datamodel.models.length ++ " models, " ++
              toString g.datamodel.enums.length ++ " enums, " ++
              toString g.actions.length ++ " actions (" ++
              toString (g.actions.countP fun a => a.linkedIndex.isSome) ++ " linked)"))] ∧
          ∀ r ∈ body, ¬ r.Begins Log.successMark) ∧
        builtModels options raw = g.datamodel.models ∧
        builtActions options verbs raw = g.actions) ∧
      ((∃ failure, outcome = .error failure) ↔ ∃ phase, FailsIn options verbs raw phase) ∧
      (∀ phase, FailsIn options verbs raw phase → infos log = phase.infos) ∧
      notes log = (builtModels options raw).map Model.record ++
        (builtActions options verbs raw).map Action.record := by
  refine ⟨exists_begins_successMark_iff, fun g hg => ⟨records_build_of_graph hg, ?_⟩,
    fails_build_iff, fun phase => infos_build, notes_build⟩
  obtain ⟨body, -, hcourse⟩ := course_build options verbs raw
  rw [hg] at hcourse
  obtain ⟨hmodels, hactions, -⟩ := hcourse.of_ok
  exact ⟨hmodels, hactions⟩

/-- A document with a query on users and another one behind it. -/
def usersAnd (query : String) : Document :=
  .ofQueries [.plain "User" []] [.plain "findManyUser" "User", .plain query "User"]

/-- Where the second query has no verb, the log ends behind the note on the first one. -/
theorem log_tells_of_second_query :
    (∃ g body, (build .default Verb.all (usersAnd "countUser").toValue).outcome = .ok g ∧
      (build .default Verb.all (usersAnd "countUser").toValue).records =
        body ++ [⟨.graph, 20, "✓ Graph built: 1 models, 0 enums, 2 actions (2 linked)"⟩]) ∧
    FailsIn .default Verb.all (usersAnd "obtainUser").toValue .actions ∧
    infos (build .default Verb.all (usersAnd "obtainUser").toValue).records =
      [⟨.graph, 20, "============================================================"⟩,
        ⟨.graph, 20, "  BUILDING DMMF GRAPH"⟩,
        ⟨.graph, 20, "============================================================"⟩,
        ⟨.graph, 20, "→ Building models..."⟩,
        ⟨.graph, 20, "→ Linking actions..."⟩] ∧
    (notes (build .default Verb.all (usersAnd "obtainUser").toValue).records).map
        Log.Record.message =
      ["Model 'User': 0 fields, 0 imports",
        "Action 'findManyUser': verb=findMany, model_type=User, linked_model=User"] := by
  obtain ⟨-, hgraph, -⟩ := log_tells_outcome .default Verb.all (usersAnd "countUser").toValue
  obtain ⟨-, -, -, hinfos, hnotes⟩ :=
    log_tells_outcome .default Verb.all (usersAnd "obtainUser").toValue
  have hfails : FailsIn .default Verb.all (usersAnd "obtainUser").toValue .actions := by
    obtain ⟨datamodel, hdatamodel, -⟩ := exists_outcome_of_any
      (x := Datamodel.build .default (usersAnd "obtainUser").datamodel) (p := fun _ => true)
      (by decide)
    refine .actions rfl hdatamodel ⟨.plain "obtainUser" "User", .tail _ (.head _), ?_⟩
    rw [fails_iff, Action.failure?_build]
    decide
  refine ⟨?_, hfails, (hinfos _ hfails).trans (by decide), ?_⟩
  · obtain ⟨g, hg, hcounts⟩ := exists_outcome_of_any
      (x := build .default Verb.all (usersAnd "countUser").toValue)
      (p := fun g => decide (g.summary = ⟨1, 0, 2, 2⟩)) (by decide)
    obtain ⟨⟨body, hlog, -⟩, -⟩ := hgraph g hg
    have htext : Log.success (Summary.message ⟨1, 0, 2, 2⟩) =
        "✓ Graph built: 1 models, 0 enums, 2 actions (2 linked)" := by decide
    refine ⟨g, body, hg, hlog.trans ?_⟩
    show body ++ [record (Log.success g.summary.message)] = _
    rw [of_decide_eq_true hcounts, htext]
    rfl
  · rw [hnotes]
    decide

end ModelGraph.Graph
