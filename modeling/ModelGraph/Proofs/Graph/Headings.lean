import ModelGraph.Proofs.Graph.Log
import ModelGraph.Proofs.Log.Style
import ModelGraph.Proofs.Text.Ends

/-!
# What is painted like a heading in the log of a build

The style of headings is for the lines around a title, but every long message with an equals sign
has it. `HeadingLike` says which records of a build these are: the separators, the notes on all
actions, and the notes on the models that have an equals sign in their names. So the separators
alone are painted like headings, and the notes on models, actions and the datamodel like details,
exactly when no action was built and no model with such a name (`headersOnly_iff`).
-/

namespace ModelGraph

open Log

variable {options : Options} {verbs : List String} {raw : Value}

/-! ## Notes -/

namespace Log.Record

/-- A record at the level of details whose message begins with neither a blank nor a mark and is
long: it goes on to a character that is not blank behind the first twenty. -/
structure IsLong (r : Record) (front : List Char) (c : Char) (back : List Char) : Prop where
  level : r.level = Level.debug
  message : r.message.toList = front ++ c :: back
  first : ∃ d ∈ front.head?, Text.isBlank d = false ∧ d ≠ '✓' ∧ d ≠ '→'
  length : 20 ≤ front.length
  bare : Text.isBlank c = false

/-- The equals sign decides how a long message is painted. -/
theorem IsLong.style_eq {r : Record} {front back : List Char} {c : Char}
    (h : r.IsLong front c back) :
    r.style = if '=' ∈ r.message.toList then .heading else .debug := by
  obtain ⟨d, hd, hblank, hsuccess, hprogress⟩ := h.first
  obtain ⟨rest, hfront⟩ := List.head?_eq_some_iff.1 hd
  have hmessage : r.message.toList = d :: (rest ++ c :: back) := by
    rw [h.message, hfront, List.cons_append]
  have hnosuccess : successMark.toList.isPrefixOf r.message.toList = false := by
    simp [successMark, hmessage, List.isPrefixOf_cons_cons, hsuccess.symm]
  have hnoprogress : progressMark.toList.isPrefixOf r.message.toList = false := by
    simp [progressMark, hmessage, List.isPrefixOf_cons_cons, hprogress.symm]
  have hlong : 20 < (Text.trim r.message.toList).length := by
    have hhead : ∀ b ∈ front.head?, Text.isBlank b = false := by
      intro b hb
      rwa [Option.mem_unique hb hd]
    rw [h.message]
    exact Nat.lt_of_le_of_lt h.length (Text.length_lt_length_trim hhead h.bare)
  have hlooks : Style.looksLikeSeparator r.message = true ↔ '=' ∈ r.message.toList :=
    (Style.looksLikeSeparator_iff "DEBUG" r.message).trans ⟨And.left, fun heq => ⟨heq, hlong⟩⟩
  have hname : Level.name Level.debug = "DEBUG" := by decide
  rw [style, h.level, Style.of_name_of_lt_warning (by decide), hname, Style.ofMessage, hnosuccess,
    hnoprogress]
  simp only [hlooks, if_true, Bool.false_eq_true, if_false]

end Log.Record

/-- A written number has no equals sign in it. -/
theorem equals_notMem_toDigits (n : Nat) : '=' ∉ Nat.toDigits 10 n := by
  intro hmem
  have hdigit : '='.isDigit = true :=
    Nat.isDigit_of_mem_toDigits (by decide) (Nat.le_refl 10) hmem
  revert hdigit
  decide

/-- A model is noted like a heading when its name has an equals sign. -/
theorem Model.style_record (m : Model) :
    m.record.style = if '=' ∈ m.name.toList then .heading else .debug := by
  have hlong : m.record.IsLong ("Model '" ++ m.name ++ "': " ++ toString m.fields.length ++
      " fields, " ++ toString m.imports.size ++ " import").toList 's' [] :=
    { level := rfl
      message := by
        show m.note.toList = _
        unfold note
        simp
      first := ⟨'M', by simp, by decide, by decide, by decide⟩
      length := by
        simp
        omega
      bare := by decide }
  have hequals : '=' ∈ m.record.message.toList ↔ '=' ∈ m.name.toList := by
    show '=' ∈ m.note.toList ↔ _
    unfold note
    simp [equals_notMem_toDigits]
  rw [hlong.style_eq]
  simp only [hequals]

/-- So is its directive when that has no statements. -/
theorem Model.style_directiveNote (model : String) :
    (directiveNote model).style = if '=' ∈ model.toList then .heading else .debug := by
  have hlong : (directiveNote model).IsLong "Import directive without valid statements".toList '.'
      (" " ++ modelLocation model).toList :=
    { level := rfl
      message := by
        show ("Import directive without valid statements. " ++ modelLocation model).toList = _
        simp
      first := ⟨'I', by decide, by decide, by decide, by decide⟩
      length := by decide
      bare := by decide }
  have hequals : '=' ∈ (directiveNote model).message.toList ↔ '=' ∈ model.toList := by
    show '=' ∈ ("Import directive without valid statements. " ++ modelLocation model).toList ↔ _
    unfold modelLocation
    simp
  rw [hlong.style_eq]
  simp only [hequals]

/-- The datamodel is noted like any detail. -/
theorem Datamodel.style_record (d : Datamodel) : d.record.style = .debug := by
  have hlong : d.record.IsLong ("Datamodel built: " ++ toString d.models.length ++ " models").toList
      ',' (" " ++ toString d.enums.length ++ " enums").toList :=
    { level := rfl
      message := by
        show d.note.toList = _
        unfold note
        simp
      first := ⟨'D', by simp, by decide, by decide, by decide⟩
      length := by simp
      bare := by decide }
  have hequals : '=' ∉ d.record.message.toList := by
    show '=' ∉ d.note.toList
    unfold note
    simp [equals_notMem_toDigits]
  rw [hlong.style_eq, if_neg hequals]

/-- Every action is noted like a heading. -/
theorem Action.style_record (a : Action) : a.record.style = .heading := by
  have hlong : a.record.IsLong
      ("Action '" ++ a.name ++ "': verb=" ++ a.verb ++ ", model_type").toList '='
      (a.modelType ++ ", linked_model=" ++ (a.linkedModel.map Model.name).getD "None").toList :=
    { level := rfl
      message := by
        show a.note.toList = _
        unfold note
        simp
      first := ⟨'A', by simp, by decide, by decide, by decide⟩
      length := by
        simp
        omega
      bare := by decide }
  have hequals : '=' ∈ a.record.message.toList := by simp [hlong.message]
  rw [hlong.style_eq, if_pos hequals]

/-! ## The records of a build -/

namespace Graph

theorem style_separatorRecord : separatorRecord.style = .heading := by decide

theorem style_titleRecord : titleRecord.style = .plain := by decide

theorem style_phaseRecords : modelsRecord.style = .progress ∧ actionsRecord.style = .progress := by
  decide

theorem style_successRecord (g : Graph) : g.successRecord.style = .success := by
  have hmark : successMark.toList.isPrefixOf g.successRecord.message.toList = true := by
    rw [List.isPrefixOf_iff_prefix]
    show successMark.toList <+: (success g.summary.message).toList
    rw [success, String.toList_append]
    exact List.prefix_append _ _
  have hlevel : g.successRecord.level = Level.info := rfl
  rw [Log.Record.style, hlevel, Style.of_name_of_lt_warning (by decide), Style.ofMessage,
    if_pos hmark]

/-- Every record is about something that was built, about the build as a whole, or about its end. -/
theorem entry_of_mem_records {r : Log.Record} (hr : r ∈ (build options verbs raw).records) :
    Entry options verbs raw r ∨ ∃ g : Graph, r = g.successRecord := by
  obtain ⟨body, hlog, hcourse⟩ := course_build options verbs raw
  rw [hlog, List.mem_append] at hr
  rcases hr with hr | hr
  · exact .inl (hcourse.entry hr)
  · cases houtcome : (build options verbs raw).outcome with
    | error failure =>
        rw [houtcome] at hr
        exact absurd hr List.not_mem_nil
    | ok g =>
        rw [houtcome] at hr
        exact .inr ⟨g, List.mem_singleton.1 hr⟩

/-- What looks like a heading in the log of a build: the separators, the notes on actions, and the
notes on the models that have an equals sign in their names. -/
inductive HeadingLike (options : Options) (verbs : List String) (raw : Value) : Log.Record → Prop
  | separator : HeadingLike options verbs raw separatorRecord
  | action {a : Action} : a ∈ builtActions options verbs raw →
      HeadingLike options verbs raw a.record
  | model {m : Model} : m ∈ builtModels options raw → '=' ∈ m.name.toList →
      HeadingLike options verbs raw m.record
  | directive {m : Model} : m ∈ builtModels options raw → '=' ∈ m.name.toList →
      HeadingLike options verbs raw (Model.directiveNote m.name)

theorem HeadingLike.style_eq {r : Log.Record} (h : HeadingLike options verbs raw r) :
    r.style = .heading := by
  cases h with
  | separator => exact style_separatorRecord
  | action _ => exact Action.style_record _
  | model _ hequals => rw [Model.style_record, if_pos hequals]
  | directive _ hequals => rw [Model.style_directiveNote, if_pos hequals]

/-- Whatever a record of a build is about, it looks like a heading, is painted like a detail, or is
an ordinary message in another style. -/
theorem style_cases {r : Log.Record} (hr : r ∈ (build options verbs raw).records) :
    HeadingLike options verbs raw r ∨ r.style = .debug ∨
      r.level = Level.info ∧ r.style ≠ .heading := by
  rcases entry_of_mem_records hr with hentry | ⟨g, rfl⟩
  · cases hentry with
    | opening hmem =>
        rcases mem_opening hmem with rfl | rfl
        · exact .inl .separator
        · exact .inr (.inr ⟨rfl, by rw [style_titleRecord]; decide⟩)
    | phase hphase =>
        rcases hphase with rfl | rfl
        · exact .inr (.inr ⟨rfl, by rw [style_phaseRecords.1]; decide⟩)
        · exact .inr (.inr ⟨rfl, by rw [style_phaseRecords.2]; decide⟩)
    | @directive m hm =>
        by_cases hequals : '=' ∈ m.name.toList
        · exact .inl (.directive hm hequals)
        · exact .inr (.inl (by rw [Model.style_directiveNote, if_neg hequals]))
    | @model m hm =>
        by_cases hequals : '=' ∈ m.name.toList
        · exact .inl (.model hm hequals)
        · exact .inr (.inl (by rw [Model.style_record, if_neg hequals]))
    | datamodel d => exact .inr (.inl d.style_record)
    | action ha => exact .inl (.action ha)
  · exact .inr (.inr ⟨rfl, by rw [style_successRecord]; decide⟩)

/-- The records of a build that have the style of headings. -/
theorem style_eq_heading_iff {r : Log.Record} (hr : r ∈ (build options verbs raw).records) :
    r.style = .heading ↔ HeadingLike options verbs raw r := by
  refine ⟨fun hstyle => ?_, HeadingLike.style_eq⟩
  rcases style_cases hr with hlike | hdebug | ⟨-, hne⟩
  · exact hlike
  · rw [hdebug] at hstyle
    cases hstyle
  · exact absurd hstyle hne

theorem record_mem_of_mem_builtModels {m : Model} (h : m ∈ builtModels options raw) :
    m.record ∈ (build options verbs raw).records := by
  have hnote : m.record ∈ notes (build options verbs raw).records := by
    rw [notes_build]
    exact List.mem_append_left _ (List.mem_map_of_mem h)
  exact List.mem_of_mem_filter hnote

theorem record_mem_of_mem_builtActions {a : Action} (h : a ∈ builtActions options verbs raw) :
    a.record ∈ (build options verbs raw).records := by
  have hnote : a.record ∈ notes (build options verbs raw).records := by
    rw [notes_build]
    exact List.mem_append_right _ (List.mem_map_of_mem h)
  exact List.mem_of_mem_filter hnote

/-- The separators alone are painted like headings, and the notes on models, on actions and on the
datamodel like details. -/
structure HeadersOnly (log : List Log.Record) : Prop where
  headings : ∀ r ∈ log, r.PaintedAs .heading → r = separatorRecord
  details : ∀ r ∈ log, r.level = Level.debug →
    (r.Begins "Model " ∨ r.Begins "Action " ∨ r.Begins "Datamodel built") → r.PaintedAs .debug

/-- A record at the level of details is no separator. -/
theorem ne_separatorRecord {r : Log.Record} (hlevel : r.level = Level.debug) :
    r ≠ separatorRecord := by
  rintro rfl
  revert hlevel
  decide

/-- Without actions and without models with an equals sign in the name, headings are what they
should be; and not otherwise. -/
theorem headersOnly_iff :
    HeadersOnly (build options verbs raw).records ↔
      builtActions options verbs raw = [] ∧
        ∀ m ∈ builtModels options raw, '=' ∉ m.name.toList := by
  constructor
  · intro h
    constructor
    · rw [List.eq_nil_iff_forall_not_mem]
      intro a ha
      have hpainted : a.record.PaintedAs .heading := Log.Record.paintedAs_iff.2 a.style_record
      exact ne_separatorRecord rfl
        (h.headings _ (record_mem_of_mem_builtActions ha) hpainted)
    · intro m hm hequals
      have hlike : HeadingLike options verbs raw m.record := .model hm hequals
      have hpainted : m.record.PaintedAs .heading := Log.Record.paintedAs_iff.2 hlike.style_eq
      exact ne_separatorRecord rfl
        (h.headings _ (record_mem_of_mem_builtModels hm) hpainted)
  · rintro ⟨hactions, hmodels⟩
    have hlike : ∀ {r}, HeadingLike options verbs raw r → r = separatorRecord := by
      intro r hr
      cases hr with
      | separator => rfl
      | action ha =>
          rw [hactions] at ha
          exact absurd ha List.not_mem_nil
      | model hm hequals | directive hm hequals => exact absurd hequals (hmodels _ hm)
    constructor
    · intro r hr hpainted
      exact hlike ((style_eq_heading_iff hr).1 (Log.Record.paintedAs_iff.1 hpainted))
    · intro r hr hlevel _
      rw [Log.Record.paintedAs_iff]
      rcases style_cases hr with hheading | hdebug | ⟨hinfo, -⟩
      · exact absurd (hlike hheading) (ne_separatorRecord hlevel)
      · exact hdebug
      · rw [hlevel] at hinfo
        cases hinfo

/-- What is painted like a heading in the log of a build is what looks like one; every other detail
is painted like a detail. So headings are what they should be exactly when no action was built and
no model with an equals sign in its name. -/
theorem headings_in_log (options : Options) (verbs : List String) (raw : Value) :
    let log := (build options verbs raw).records
    (∀ r ∈ log, r.PaintedAs .heading ↔ HeadingLike options verbs raw r) ∧
      (∀ r ∈ log, r.level = Level.debug → r.PaintedAs .heading ∨ r.PaintedAs .debug) ∧
      (HeadersOnly log ↔ builtActions options verbs raw = [] ∧
        ∀ m ∈ builtModels options raw, '=' ∉ m.name.toList) := by
  refine ⟨fun r hr => Log.Record.paintedAs_iff.trans (style_eq_heading_iff hr), ?_,
    headersOnly_iff⟩
  intro r hr hlevel
  rw [Log.Record.paintedAs_iff, Log.Record.paintedAs_iff]
  rcases style_cases hr with hlike | hdebug | ⟨hinfo, -⟩
  · exact .inl hlike.style_eq
  · exact .inr hdebug
  · rw [hlevel] at hinfo
    cases hinfo

/-- A document with one model and no operations. -/
def modelOnly (name : String) : Document :=
  .ofQueries [.plain name []] []

/-- Without operations the name of the model decides. -/
theorem headings_in_log_of_modelOnly :
    HeadersOnly (build .default Verb.all (modelOnly "User").toValue).records ∧
      ¬ HeadersOnly (build .default Verb.all (modelOnly "Left=Right").toValue).records := by
  obtain ⟨-, -, huser⟩ := headings_in_log .default Verb.all (modelOnly "User").toValue
  obtain ⟨-, -, hequation⟩ := headings_in_log .default Verb.all (modelOnly "Left=Right").toValue
  rw [huser, hequation]
  decide

/-- The note on a query is painted like a heading. -/
theorem action_painted_as_heading :
    (∃ r ∈ (build .default Verb.all (usersAnd "countUser").toValue).records,
      r.message = "Action 'findManyUser': verb=findMany, model_type=User, linked_model=User" ∧
        r.level = Level.debug ∧ r.PaintedAs .heading) ∧
      ¬ HeadersOnly (build .default Verb.all (usersAnd "countUser").toValue).records := by
  have hany : (builtActions .default Verb.all (usersAnd "countUser").toValue).any (fun a => a.note =
      "Action 'findManyUser': verb=findMany, model_type=User, linked_model=User") = true := by
    decide
  obtain ⟨a, ha, hnote⟩ := List.any_eq_true.1 hany
  have hmem := record_mem_of_mem_builtActions ha
  have hpainted : a.record.PaintedAs .heading := Log.Record.paintedAs_iff.2 a.style_record
  exact ⟨⟨a.record, hmem, of_decide_eq_true hnote, rfl, hpainted⟩,
    fun h => ne_separatorRecord rfl (h.headings _ hmem hpainted)⟩

end Graph

end ModelGraph
