import Mathlib.Data.List.Forall2
import ModelGraph.Validation.Reader

/-!
# What a successful reading gives

A reading of several parts succeeds exactly when each part does, and its result is made of theirs.
The lemmas say so for the ways in which readings are put together: side by side, as the fields of a
record (`required_eq_ok_iff`, `optional_eq_ok_iff`), and as the items of a list
(`listOf_eq_ok_iff`). Nothing after this module unfolds them.
-/

namespace ModelGraph.Validation

variable {α β ε : Type}

/-! ## Readings side by side -/

namespace Checked

variable {x : Checked α} {a : α} {b : β}

@[simp] theorem map_ok (f : α → β) (a : α) : f <$> (ok a : Checked α) = ok (f a) := rfl

@[simp] theorem seq_ok (f : α → β) (a : α) : (ok f : Checked (α → β)) <*> ok a = ok (f a) := rfl

@[simp] theorem under_ok (segment : Segment) (a : α) : (ok a).under segment = ok a := rfl

@[simp] theorem map_eq_ok_iff {f : α → β} : f <$> x = .ok b ↔ ∃ a, x = .ok a ∧ f a = b := by
  show ap (.ok f) x = .ok b ↔ _
  cases x <;> simp [ap]

@[simp] theorem seq_eq_ok_iff {f : Checked (α → β)} :
    f <*> x = .ok b ↔ ∃ g a, f = .ok g ∧ x = .ok a ∧ g a = b := by
  show ap f x = .ok b ↔ _
  cases f <;> cases x <;> simp [ap]

@[simp] theorem under_eq_ok_iff {segment : Segment} : x.under segment = .ok a ↔ x = .ok a := by
  cases x <;> simp [under]

@[simp] theorem refuse_ne_ok {cause : Cause} : (refuse cause : Checked α) ≠ .ok a := by
  simp [refuse]

theorem toExcept_eq_ok_iff {onRefused : List Violation → ε} :
    x.toExcept onRefused = .ok a ↔ x = .ok a := by
  cases x <;> simp [toExcept]

theorem isOk_iff : x.isOk = true ↔ ∃ a, x = .ok a := by
  cases x <;> simp [isOk]

/-- Whatever one reading gives, the other gives too. -/
def Kept (x y : Checked α) : Prop :=
  ∀ a, x = .ok a → y = .ok a

theorem Kept.map {x y : Checked α} (f : α → β) (h : x.Kept y) : Kept (f <$> x) (f <$> y) := by
  intro b hb
  obtain ⟨a, ha, rfl⟩ := map_eq_ok_iff.1 hb
  exact map_eq_ok_iff.2 ⟨a, h a ha, rfl⟩

theorem Kept.seq {f g : Checked (α → β)} {x y : Checked α} (hf : f.Kept g) (h : x.Kept y) :
    Kept (f <*> x) (g <*> y) := by
  intro b hb
  obtain ⟨apply, a, happly, ha, rfl⟩ := seq_eq_ok_iff.1 hb
  exact seq_eq_ok_iff.2 ⟨apply, a, hf apply happly, h a ha, rfl⟩

end Checked

/-! ## Records -/

variable {key : FieldKey} {read : Reader α} {entries : Entries} {a : α}

/-- A field that has to be there is read when its value is found and can be read. -/
theorem required_eq_ok_iff :
    required key read entries = .ok a ↔
      ∃ spelling value, key.find? entries = some (spelling, value) ∧ read value = .ok a := by
  unfold required
  split
  · next spelling value hfound => simp [hfound]
  · next hnone => simp [hnone]

/-- A field that may be absent is read when its value can be read, and when it is absent. -/
theorem optional_eq_ok_iff {fallback : α} :
    optional key fallback read entries = .ok a ↔
      (key.find? entries = none ∧ a = fallback) ∨
        ∃ spelling value, key.find? entries = some (spelling, value) ∧ read value = .ok a := by
  unfold optional
  split
  · next spelling value hfound => simp [hfound]
  · next hnone => simp [hnone, eq_comm]

/-- Only objects are records. -/
theorem record_eq_ok_iff {label : String} {readEntries : Entries → Checked α} {value : Value} :
    record label readEntries value = .ok a ↔
      ∃ entries, value = .object entries ∧ readEntries entries = .ok a := by
  cases value <;> simp [record]

/-! ## Lists -/

/-- Items are read one by one. -/
theorem items_eq_ok_iff {values : List Value} {as : List α} {i : Nat} :
    items read i values = .ok as ↔ List.Forall₂ (fun value a => read value = .ok a) values as := by
  induction values generalizing i as with
  | nil => simp [items, eq_comm]
  | cons value rest ih =>
      simp only [items, Checked.seq_eq_ok_iff, Checked.map_eq_ok_iff, Checked.under_eq_ok_iff, ih,
        List.forall₂_cons_left_iff]
      constructor
      · rintro ⟨_, as, ⟨a, ha, rfl⟩, has, rfl⟩
        exact ⟨a, as, ha, has, rfl⟩
      · rintro ⟨a, as, ha, has, rfl⟩
        exact ⟨_, as, ⟨a, ha, rfl⟩, has, rfl⟩

/-- A list is read item by item. -/
theorem listOf_eq_ok_iff {value : Value} {as : List α} :
    listOf read value = .ok as ↔
      ∃ values, value = .list values ∧
        List.Forall₂ (fun value a => read value = .ok a) values as := by
  cases value <;> simp [listOf, items_eq_ok_iff]

/-- Every item of a list that was read was read from a value. -/
theorem exists_of_mem_of_listOf {value : Value} {as : List α} (h : listOf read value = .ok as)
    (ha : a ∈ as) : ∃ item, read item = .ok a := by
  obtain ⟨values, -, hitems⟩ := listOf_eq_ok_iff.1 h
  obtain ⟨i, hi, rfl⟩ := List.mem_iff_getElem.1 ha
  exact ⟨_, hitems.get (hitems.length_eq ▸ hi) hi⟩

/-- A list that needs an item is read like any list, and has one. -/
theorem nonemptyListOf_eq_ok_iff {value : Value} {as : List α} :
    nonemptyListOf read value = .ok as ↔ listOf read value = .ok as ∧ as ≠ [] := by
  cases value with
  | scalar _ => simp [nonemptyListOf, listOf]
  | object _ => simp [nonemptyListOf, listOf]
  | list values =>
      simp only [nonemptyListOf, listOf]
      split
      · next hany =>
          refine ⟨fun h => ⟨h, ?_⟩, And.left⟩
          -- No values, no valid one among them.
          rintro rfl
          rw [items_eq_ok_iff, List.forall₂_nil_right_iff] at h
          simp [h] at hany
      · next hnone =>
          simp only [reduceCtorEq, false_iff, not_and, not_not]
          intro h
          rw [items_eq_ok_iff] at h
          cases h with
          | nil => rfl
          | cons hvalue _ => simp [Checked.isOk_iff, hvalue] at hnone

end ModelGraph.Validation
