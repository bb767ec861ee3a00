import ModelGraph.ImportSet.Session
import ModelGraph.Proofs.ImportSet.History

/-!
# Runs of changes

A set of statements is changed by adding statements to it, by extending it, and by excluding some of
them. What such a run of changes inserts and excludes is its history, and at every point the set is
the one that the history so far leads to (`changes_ofStatements`). So all that is known of histories
holds of runs; `answers_by_history` says it of what can be asked of a set.
-/

namespace ModelGraph

namespace ImportSet

open OrderedSet

/-! ## Changes -/

/-- What an extension comes across: a statement, or a value that no set can keep. -/
inductive Item where
  | statement (s : String)
  | list (items : List Value)
  | object (entries : Entries)

namespace Item

/-- The item as a value. -/
def toValue : Item → Value
  | .statement s => .text s
  | .list items => .list items
  | .object entries => .object entries

/-- The statements before the first item that cannot be kept. -/
def leading : List Item → List String
  | .statement s :: rest => s :: leading rest
  | _ => []

/-- The refusal of the first item that cannot be kept. -/
def refusal? : List Item → Option Fault
  | [] => none
  | .statement _ :: rest => refusal? rest
  | item :: _ => some (.notHashable item.toValue.kindName)

@[simp] theorem leading_map_statement (statements : List String) :
    leading (statements.map .statement) = statements := by
  induction statements with
  | nil => rfl
  | cons a rest ih => simp [leading, ih]

@[simp] theorem refusal?_map_statement (statements : List String) :
    refusal? (statements.map .statement) = none := by
  induction statements with
  | nil => rfl
  | cons a rest ih => simpa [refusal?] using ih

end Item

/-- A change of a set of statements. -/
inductive Change where
  | add (statement : String)
  /-- Adds the items one by one, up to the first that cannot be kept. -/
  | extend (items : List Item)
  /-- Extends the set by itself. -/
  | extendSelf
  /-- Gives way to the set without the statements that satisfy `p`. -/
  | exclude (p : String → Bool)

/-- The set after a change. -/
def change (s : Items) : Change → Items
  | .add statement => (step s (.add (.text statement))).1
  | .extend items => (step s (.extend (.list (items.map Item.toValue)))).1
  | .extendSelf => (step s .extendSelf).1
  | .exclude p =>
    match excludeText s p with
    | .ok t => t
    | .error _ => s

/-- The set after some changes. -/
def changes (s : Items) (run : List Change) : Items :=
  run.foldl change s

/-- The texts in a set. -/
def statements (s : Items) : List String :=
  s.toList.filterMap fun
    | .text statement => some statement
    | _ => none

/-- What a change of a set inserts and excludes. A set that is extended by itself is asked to insert
what it has. -/
def events (s : Items) : Change → List (Event String)
  | .add statement => [.insert statement]
  | .extend items => (Item.leading items).map .insert
  | .extendSelf => (statements s).map .insert
  | .exclude p => [.exclude p]

/-- What some changes of a set insert and exclude, one after the other. -/
def history (s : Items) : List Change → List (Event String)
  | [] => []
  | next :: rest => events s next ++ history (change s next) rest

/-! ## Sets of statements -/

/-- A set of statements as a set that could have other items too. -/
def ofStatements (s : ImportSet) : Items :=
  ⟨s.toList.map .text⟩

@[simp] theorem toList_ofStatements (s : ImportSet) :
    (ofStatements s).toList = s.toList.map .text := rfl

@[simp] theorem statements_ofStatements (s : ImportSet) :
    statements (ofStatements s) = s.toList := by
  simp [statements, List.filterMap_map]

/-- A text is an element of a set of statements when it is one of these. -/
@[simp] theorem contains_ofStatements (s : ImportSet) (a : String) :
    (ofStatements s).contains (.text a) = s.contains a := by
  unfold contains
  rw [toList_ofStatements]
  induction s.toList with
  | nil => rfl
  | cons b rest ih =>
      rw [List.map_cons, List.contains_cons, List.contains_cons, ih]
      rfl

@[simp] theorem insert_ofStatements (s : ImportSet) (a : String) :
    (ofStatements s).insert (.text a) = ofStatements (s.insert a) := by
  unfold OrderedSet.insert
  rw [contains_ofStatements]
  split
  · rfl
  · simp [ofStatements]

theorem insertAll_ofStatements (s : ImportSet) (added : List String) :
    (ofStatements s).insertAll (added.map .text) = ofStatements (s.insertAll added) := by
  induction added generalizing s with
  | nil => rfl
  | cons a rest ih => simp [ih]

/-- An extension adds the statements before the first item that cannot be kept. -/
theorem insertEach_ofStatements (s : ImportSet) (items : List Item) :
    (ofStatements s).insertEach Value.element (items.map Item.toValue) =
      (ofStatements (s.insertAll (Item.leading items)), Item.refusal? items) := by
  induction items generalizing s with
  | nil => rfl
  | cons item rest ih =>
      cases item with
      | statement a =>
          show (ofStatements s |>.insert (.text a)).insertEach Value.element _ = _
          rw [insert_ofStatements, ih]
          rfl
      | list _ => rfl
      | object _ => rfl

/-- Excluding statements from a set of nothing else is never refused. -/
theorem excludeText_ofStatements (s : ImportSet) (p : String → Bool) :
    excludeText (ofStatements s) p = .ok (ofStatements (s.exclude p)) := by
  have hnone : searchFault? (ofStatements s) = none := by
    simp [searchFault?, List.findSome?_eq_none_iff]
  unfold excludeText
  rw [hnone]
  simp [ofStatements, OrderedSet.exclude, List.filter_map, Function.comp_def]

/-- A set that is made of statements has nothing else. -/
theorem ofValue_ofStatements (initial : List String) :
    ofValue (.list (initial.map .text)) = .ok (ofStatements (ofList initial)) := by
  have hitems : initial.map Value.text = (initial.map Item.statement).map Item.toValue := by
    simp [Item.toValue]
  have hextend : extendBy .empty (.list (initial.map .text)) =
      (ofStatements (ofList initial), none) := by
    show (ofStatements .empty).insertEach Value.element (initial.map .text) = _
    rw [hitems, insertEach_ofStatements, Item.leading_map_statement, Item.refusal?_map_statement]
    rfl
  rw [ofValue, hextend]

/-- Sets of statements are the same exactly when they list the same. -/
theorem same_ofStatements_iff {s t : ImportSet} :
    same (ofStatements s) (ofStatements t) = true ↔ s.toList = t.toList := by
  unfold same
  rw [toList_ofStatements, toList_ofStatements]
  generalize s.toList = left
  generalize t.toList = right
  induction left generalizing right with
  | nil => cases right <;> simp
  | cons a left ih =>
      cases right with
      | nil => simp
      | cons b right =>
          rw [List.map_cons, List.map_cons, List.cons_beq_cons, Bool.and_eq_true, ih,
            List.cons.injEq]
          have htext : (Scalar.text a == Scalar.text b) = true ↔ a = b := by
            show (a == b) = true ↔ a = b
            exact beq_iff_eq
          exact and_congr_left' htext

/-! ## Runs -/

/-- What a change does to a set of statements is what it inserts and excludes. -/
theorem change_ofStatements (s : ImportSet) (c : Change) :
    change (ofStatements s) c = ofStatements ((events (ofStatements s) c).foldl after s) := by
  cases c with
  | add statement => exact insert_ofStatements s statement
  | extend items =>
      have hextend : extendBy (ofStatements s) (.list (items.map Item.toValue)) =
          (ofStatements (s.insertAll (Item.leading items)), Item.refusal? items) :=
        insertEach_ofStatements s items
      simp only [change, step, hextend, events, List.foldl_map]
      cases Item.refusal? items <;> rfl
  | extendSelf =>
      simp only [change, step, events, statements_ofStatements, List.foldl_map]
      exact insertAll_ofStatements s s.toList
  | exclude p =>
      simp only [change, excludeText_ofStatements]
      rfl

/-- At every point of a run the set is the one that its history leads to. -/
theorem changes_ofStatements (s : ImportSet) (run : List Change) :
    changes (ofStatements s) run = ofStatements ((history (ofStatements s) run).foldl after s) := by
  induction run generalizing s with
  | nil => rfl
  | cons next rest ih =>
      rw [changes, List.foldl_cons, ← changes, change_ofStatements, ih, history, List.foldl_append,
        change_ofStatements]

/-- A run without exclusions inserts only. -/
theorem exists_insertions {s : Items} {run : List Change} (h : ∀ c ∈ run, ∀ p, c ≠ .exclude p) :
    ∃ inserted : List String, history s run = inserted.map .insert := by
  induction run generalizing s with
  | nil => exact ⟨[], rfl⟩
  | cons next rest ih =>
      have hfirst : ∃ inserted : List String, events s next = inserted.map .insert := by
        cases next with
        | add statement => exact ⟨[statement], rfl⟩
        | extend items => exact ⟨_, rfl⟩
        | extendSelf => exact ⟨_, rfl⟩
        | exclude p => exact absurd rfl (h _ List.mem_cons_self p)
      obtain ⟨first, hfirst⟩ := hfirst
      obtain ⟨others, hothers⟩ := ih (s := change s next) fun c hc =>
        h c (List.mem_cons_of_mem _ hc)
      exact ⟨first ++ others, by rw [history, hfirst, hothers, List.map_append]⟩

/-! ## What can be asked of a set -/

/-- A set has statements and nothing else. -/
def OfStatements (s : Items) : Prop :=
  s.toList = (statements s).map .text

/-- The set `s` answers as its history says. -/
structure AnswersBy (history : List (Event String)) (s : Items) : Prop where
  only_statements : OfStatements s
  nodup : (statements s).Nodup
  mem_iff : ∀ a, a ∈ statements s ↔ ∃ i, LastingInsertion history a i
  in_order : (statements s).Pairwise (EntersBefore history)
  size_eq : s.size = (statements s).length
  isEmpty_eq : (s.size == 0) = (statements s).isEmpty
  contains_iff : ∀ a, s.contains (.text a) = true ↔ a ∈ statements s
  same_iff : ∀ t, OfStatements t → (same s t = true ↔ statements s = statements t)
  /-- Excluding statements makes another set, which has the others in the same order. -/
  exclude_eq : ∀ p, excludeText s p =
    .ok (ofStatements ⟨(statements s).filter fun a => !p a⟩)
  peek_eq : ∀ part, (step s (.peekExclude part)).1 = s

/-- The set that a history leads to answers as the history says. -/
theorem answersBy_replay (history : List (Event String)) :
    AnswersBy history (ofStatements (replay history)) := by
  have hstatements := statements_ofStatements (replay history)
  have hnodup := nodup_replay history
  have horder := pairwise_replay history
  rw [← hstatements] at hnodup horder
  refine
    { only_statements := congrArg (List.map Scalar.text) hstatements.symm
      nodup := hnodup
      mem_iff := fun a => by rw [hstatements, mem_replay_iff]
      in_order := horder
      size_eq := by rw [size, hstatements, toList_ofStatements, List.length_map]
      isEmpty_eq := ?_
      contains_iff := fun a => by rw [contains_ofStatements, contains_iff, hstatements]
      same_iff := ?_
      exclude_eq := fun p => by rw [excludeText_ofStatements, hstatements]; rfl
      peek_eq := fun _ => rfl }
  · rw [size, hstatements, toList_ofStatements, List.length_map]
    cases (replay history).toList <;> rfl
  · intro t ht
    have hform : t = ofStatements ⟨statements t⟩ := congrArg OrderedSet.mk ht
    rw [hform, same_ofStatements_iff, statements_ofStatements, statements_ofStatements]

/-- A set of statements answers, at every point of a run of changes, as its history says: what it
was made of and what the changes inserted and excluded. As long as nothing was excluded, the
exclusion of statements gives the set of all other statements that were inserted. -/
theorem answers_by_history (initial : List String) (run : List Change) :
    ∃ start, ofValue (.list (initial.map .text)) = .ok start ∧
      AnswersBy (initial.map .insert ++ history start run) (changes start run) ∧
      ((∀ c ∈ run, ∀ p, c ≠ .exclude p) → ∀ p,
        excludeText (changes start run) p =
          ofValue (.list (((insertions (initial.map .insert ++ history start run)).filter
            fun a => !p a).map .text))) := by
  refine ⟨ofStatements (ofList initial), ofValue_ofStatements initial, ?_, fun hrun p => ?_⟩
  · have hset : changes (ofStatements (ofList initial)) run = ofStatements
        (replay (initial.map .insert ++ history (ofStatements (ofList initial)) run)) := by
      rw [changes_ofStatements, replay_append, replay_map_insert]
    rw [hset]
    exact answersBy_replay _
  · obtain ⟨inserted, hinserted⟩ := exists_insertions (s := ofStatements (ofList initial)) hrun
    have hset : changes (ofStatements (ofList initial)) run =
        ofStatements (ofList (initial ++ inserted)) := by
      rw [changes_ofStatements, hinserted, ← replay_map_insert, ← replay_append, ← List.map_append,
        replay_map_insert]
    rw [hset, hinserted, ← List.map_append, insertions_map_insert, excludeText_ofStatements,
      exclude_ofList, ofValue_ofStatements]

/-- An extension that fails at its third item, and then one by the set itself. -/
def failedExtension : List Change :=
  [.extend [.statement "c", .statement "b", .list [], .statement "d"], .extendSelf]

/-- What is inserted again does not move. -/
theorem answers_by_history_of_extensions :
    ∃ start, ofValue (.list [.text "b", .text "a"]) = .ok start ∧
      statements (changes start failedExtension) = ["b", "a", "c"] ∧
      excludeText (changes start failedExtension) (fun a => a == "b") =
        ofValue (.list [.text "a", .text "c", .text "a", .text "c"]) := by
  obtain ⟨start, hstart, -, hexclude⟩ := answers_by_history ["b", "a"] failedExtension
  have hform : start = ofStatements ⟨["b", "a"]⟩ := (Except.ok.inj hstart).symm
  subst hform
  exact ⟨_, hstart, rfl, hexclude (by simp [failedExtension]) fun a => a == "b"⟩

/-- A statement that was left out and comes again stands behind those that stayed. -/
example : statements (changes (ofStatements ⟨["b", "a"]⟩)
    [.exclude fun a => a == "b", .add "c", .add "b", .extendSelf]) = ["a", "c", "b"] := by decide

end ImportSet

end ModelGraph
