import ModelGraph.Action.Output
import ModelGraph.Proofs.Action.Linking

/-!
# Write actions and their verbs

Whether an action writes, and whether it writes many records, is read off its whole name and not
off its verb. Every write verb shows in the name, so an action with such a verb is always classed
with it. `classes_of_build` says which other actions are classed so as well: those that have one of
the words in the rest of the name.
-/

namespace ModelGraph

namespace Verb

/-- The verbs that create, update, upsert or delete. -/
def writing : List String :=
  ["createManyAndReturn", "createMany", "createOne", "updateManyAndReturn", "updateMany",
   "updateOne", "upsertOne", "deleteMany", "deleteOne"]

/-- The verbs that write many records. -/
def bulkWriting : List String :=
  ["createMany", "createManyAndReturn", "updateMany", "updateManyAndReturn", "deleteMany"]

/-- The verbs that are listed after a verb. -/
def later (verbs : List String) (verb : String) : List String :=
  (verbs.dropWhile (· != verb)).tail

/-- A listed verb stands between the earlier and the later ones. -/
theorem eq_earlier_append_later {verbs : List String} {verb : String} (hverb : verb ∈ verbs) :
    verbs = earlier verbs verb ++ verb :: later verbs verb := by
  induction verbs with
  | nil => cases hverb
  | cons v verbs ih =>
      by_cases hsame : v = verb
      · simp [earlier, later, hsame]
      · have hmem : verb ∈ verbs := by simpa [Ne.symm hsame] using hverb
        have hskip : (v != verb) = true := by simpa using hsame
        simp only [earlier, later, List.takeWhile_cons, List.dropWhile_cons, hskip, if_true,
          List.cons_append]
        exact congrArg (v :: ·) (ih hmem)

/-- A listed verb that occurs in a name is the one that is found there, or is listed after it. -/
theorem eq_or_mem_later_of_occurs {verbs : List String} {verb name : String}
    (hfound : find? verbs name = some verb) {v : String} (hv : v ∈ verbs)
    (hoccurs : Text.occurs v name = true) : v = verb ∨ v ∈ later verbs verb := by
  have hverb : verb ∈ verbs := List.mem_of_find?_eq_some hfound
  obtain ⟨-, hearlier⟩ := (find?_eq_some_iff hverb).1 hfound
  rw [eq_earlier_append_later hverb, List.mem_append, List.mem_cons] at hv
  refine hv.resolve_left fun hmem => ?_
  simp [hearlier v hmem] at hoccurs

/-- Every write verb has a write word in it. -/
theorem mentionsAny_writeWords :
    ∀ verb ∈ writing, Text.mentionsAny Action.writeWords verb = true := by
  decide

/-- Every verb that writes many records has a word for that in it. -/
theorem mentionsAny_bulkWords :
    ∀ verb ∈ bulkWriting, Text.mentionsAny Action.bulkWords verb = true := by
  decide

/-- The words for writing many records are themselves verbs that do. -/
theorem bulkWords_are_verbs : ∀ word ∈ Action.bulkWords, word ∈ all ∧ word ∈ bulkWriting := by
  decide

end Verb

namespace Text

/-- A text mentions what a part of it mentions. -/
theorem mentionsAny_of_occurs {words : List String} {part s : String} (hpart : occurs part s = true)
    (h : mentionsAny words part = true) : mentionsAny words s = true := by
  obtain ⟨word, hword, hoccurs⟩ := List.any_eq_true.1 h
  refine List.any_eq_true.2 ⟨word, hword, ?_⟩
  rw [occurs_iff] at hpart hoccurs ⊢
  exact hoccurs.trans hpart

end Text

namespace Action

variable {options : Options} {models : List Model} {source : Document.Operation} {a : Action}

/-- The verb of an action is the one that is found in its name. -/
theorem find?_of_build {verbs : List String}
    (h : (build options verbs models source).outcome = .ok a) :
    Verb.find? verbs a.name = some a.verb := by
  obtain ⟨names, verb, -, hfound, rfl⟩ := build_eq_ok_iff.1 h
  exact hfound

/-- The verb of an action occurs in its name. -/
theorem occurs_verb_of_build {verbs : List String}
    (h : (build options verbs models source).outcome = .ok a) :
    Text.occurs a.verb a.name = true :=
  List.find?_some (p := fun verb => Text.occurs verb a.name) (find?_of_build h)

/-- An action has fields to leave out exactly when its linked model has some and its verb is one of
the write verbs or its name has a write word in it elsewhere. It gives no records exactly when its
verb writes many of them, or its name has in it besides the verb a later listed one that does. -/
theorem classes_of_build (h : (build options Verb.all models source).outcome = .ok a) :
    (a.hasOmittedFields = true ↔
      (a.verb ∈ Verb.writing ∨ Text.mentionsAny writeWords a.name = true) ∧
        ∃ m, a.linkedModel = some m ∧ m.hasOmittedFields = true) ∧
    (a.includesRecords = false ↔
      a.verb ∈ Verb.bulkWriting ∨
        ∃ v ∈ Verb.later Verb.all a.verb, v ∈ bulkWords ∧ Text.occurs v a.name = true) := by
  have hoccurs := occurs_verb_of_build h
  constructor
  · have hwrites : a.verb ∈ Verb.writing ∨ Text.mentionsAny writeWords a.name = true ↔
        Text.mentionsAny writeWords a.name = true := by
      -- A write verb brings its word into the name, so the name decides alone.
      refine or_iff_right_of_imp fun hverb => ?_
      exact Text.mentionsAny_of_occurs hoccurs (Verb.mentionsAny_writeWords _ hverb)
    rw [hwrites, hasOmittedFields, Bool.and_eq_true, Option.any_eq_true]
  · rw [includesRecords, selectsRecords, Bool.not_eq_false']
    constructor
    · intro hmentions
      -- The words are verbs themselves: one that occurs is the verb that is found, or a later one.
      obtain ⟨word, hword, hin⟩ := List.any_eq_true.1 hmentions
      obtain ⟨hlisted, hbulk⟩ := Verb.bulkWords_are_verbs word hword
      rcases Verb.eq_or_mem_later_of_occurs (find?_of_build h) hlisted hin with heq | hlater
      · exact Or.inl (heq ▸ hbulk)
      · exact Or.inr ⟨word, hlater, hword, hin⟩
    · rintro (hverb | ⟨word, -, hword, hin⟩)
      · exact Text.mentionsAny_of_occurs hoccurs (Verb.mentionsAny_bulkWords _ hverb)
      · exact List.any_eq_true.2 ⟨word, hword, hin⟩

/-- An action that writes one record of a model that is called after a verb for many. -/
theorem classes_of_upsertOne_deleteMany :
    ∃ models source a, (build .default Verb.all models source).outcome = .ok a ∧
      a.verb = "upsertOne" ∧ a.hasOmittedFields = true ∧ a.includesRecords = false := by
  obtain ⟨models, source, a, hbuild, hcheck⟩ := @Graph.exists_build_of_any .default Verb.all
    (.ofQueries [.plain "Log_deleteMany" [.plain "id" .scalar "Int" ["input"]]]
      [.plain "upsertOneLog_deleteMany" "Log_deleteMany"])
    (fun a => decide (a.verb = "upsertOne" ∧ a.name = "upsertOneLog_deleteMany" ∧
      a.linkedModel.any Model.hasOmittedFields = true))
    (by decide)
  obtain ⟨hverb, hname, hlinked⟩ := of_decide_eq_true hcheck
  obtain ⟨hwrites, hbulk⟩ := classes_of_build hbuild
  refine ⟨models, source, a, hbuild, hverb, hwrites.2 ⟨?_, (Option.any_eq_true _ _).1 hlinked⟩,
    hbulk.2 ?_⟩
  · rw [hverb]
    exact Or.inl (by decide)
  · rw [hverb, hname]
    exact Or.inr ⟨"deleteMany", by decide, by decide, by decide⟩

/-- The class of an action need not be that of its verb: finding records of a model that is called
after a write verb counts as a write of many records. -/
theorem classes_not_of_verb :
    (¬ ∀ options models source a, (build options Verb.all models source).outcome = .ok a →
      (a.hasOmittedFields = true ↔
        a.verb ∈ Verb.writing ∧ ∃ m, a.linkedModel = some m ∧ m.hasOmittedFields = true)) ∧
    ¬ ∀ options models source a, (build options Verb.all models source).outcome = .ok a →
      (a.includesRecords = false ↔ a.verb ∈ Verb.bulkWriting) := by
  obtain ⟨models, source, a, hbuild, hcheck⟩ := @Graph.exists_build_of_any .default Verb.all
    (.ofQueries [.plain "Audit_createMany" [.plain "id" .scalar "Int" ["input"]]]
      [.plain "findManyAudit_createMany" "Audit_createMany"])
    (fun a => decide (a.verb = "findMany" ∧ a.hasOmittedFields = true ∧
      a.includesRecords = false))
    (by decide)
  obtain ⟨hverb, homitted, hincludes⟩ := of_decide_eq_true hcheck
  constructor
  · intro hall
    have hwriting := ((hall _ _ _ _ hbuild).1 homitted).1
    rw [hverb] at hwriting
    exact absurd hwriting (by decide)
  · intro hall
    have hbulk := (hall _ _ _ _ hbuild).1 hincludes
    rw [hverb] at hbulk
    exact absurd hbulk (by decide)

end Action

end ModelGraph
