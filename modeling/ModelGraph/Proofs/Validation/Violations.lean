import ModelGraph.Proofs.Validation.Success

/-!
# What a failed reading reports

A reading of several parts reports what is wrong with each part, in the order of the parts: of
readings side by side (`Checked.violations_seq`), of the items of a list (`violations_items`). A
reading that fails has something to report (`Reader.Explains`), so that a reading without violations
is a success.
-/

namespace ModelGraph.Validation

variable {α β : Type}

/-! ## Readings side by side -/

namespace Checked

variable {x : Checked α}

@[simp] theorem violations_refused (vs : List Violation) :
    (refused vs : Checked α).violations = vs := rfl

@[simp] theorem violations_map (f : α → β) : (f <$> x).violations = x.violations := by
  show (ap (.ok f) x).violations = _
  rw [violations_ap]
  rfl

@[simp] theorem violations_seq (f : Checked (α → β)) :
    (f <*> x).violations = f.violations ++ x.violations :=
  violations_ap f x

@[simp] theorem isOk_map (f : α → β) : (f <$> x).isOk = x.isOk := by
  show (ap (.ok f) x).isOk = _
  cases x <;> rfl

@[simp] theorem isOk_seq (f : Checked (α → β)) : (f <*> x).isOk = (f.isOk && x.isOk) := by
  show (ap f x).isOk = _
  cases f <;> cases x <;> rfl

@[simp] theorem isOk_under (segment : Segment) : (x.under segment).isOk = x.isOk := by
  cases x <;> rfl

/-- A failure has something to report. -/
def Explained (x : Checked α) : Prop :=
  x.violations = [] → x.isOk = true

theorem explained_ok (a : α) : (ok a).Explained := fun _ => rfl

theorem explained_refuse (cause : Cause) : (refuse cause : Checked α).Explained := by
  intro h
  cases h

theorem Explained.violations_eq_nil_iff (h : x.Explained) :
    x.violations = [] ↔ x.isOk = true := by
  refine ⟨h, fun hok => ?_⟩
  obtain ⟨a, rfl⟩ := isOk_iff.1 hok
  rfl

theorem Explained.map (f : α → β) (h : x.Explained) : (f <$> x).Explained := by
  intro hnone
  rw [isOk_map]
  exact h (by simpa using hnone)

theorem Explained.seq {f : Checked (α → β)} (hf : f.Explained) (h : x.Explained) :
    (f <*> x).Explained := by
  intro hnone
  rw [violations_seq, List.append_eq_nil_iff] at hnone
  rw [isOk_seq, hf hnone.1, h hnone.2]
  rfl

theorem Explained.under (segment : Segment) (h : x.Explained) : (x.under segment).Explained := by
  intro hnone
  rw [isOk_under]
  exact h (by simpa using hnone)

end Checked

/-- Every failure of the reader has something to report. -/
def Reader.Explains (read : Reader α) : Prop :=
  ∀ value, (read value).Explained

/-! ## Plain values -/

open Checked

theorem explains_text : Reader.Explains text := by
  intro value
  unfold text
  split
  · exact explained_ok _
  · exact explained_ok _
  · split
    · exact explained_ok _
    · exact explained_refuse _
  · exact explained_refuse _

theorem explains_optionalText : Reader.Explains optionalText := by
  intro value
  unfold optionalText
  split
  · exact explained_ok none
  · exact (explains_text _).map some

theorem explains_optionalObject : Reader.Explains optionalObject := by
  intro value
  unfold optionalObject
  split
  · exact explained_ok none
  · exact explained_ok _
  · exact explained_refuse _

theorem explained_flagOfText (s : String) : (flagOfText s).Explained := by
  unfold flagOfText
  split
  · exact explained_ok _
  · exact explained_refuse _

theorem explained_flagOfInt (n : Int) : (flagOfInt n).Explained := by
  unfold flagOfInt
  split
  · exact explained_ok _
  · split
    · exact explained_ok _
    · exact explained_refuse _

theorem explains_flag : Reader.Explains flag := by
  intro value
  unfold flag
  split
  · exact explained_ok _
  · exact explained_flagOfText _
  · exact explained_refuse _
  · split
    · exact explained_flagOfText _
    · exact explained_refuse _
  · split
    · exact explained_flagOfInt _
    · exact explained_refuse _
  · split
    · split
      · exact explained_flagOfInt _
      · exact explained_refuse _
    · exact explained_refuse _
  · exact explained_refuse _

/-! ## Lists -/

variable {read : Reader α}

/-- The violations in items are those in each of them, under its index. -/
theorem violations_items {values : List Value} {i : Nat} :
    (items read i values).violations = (values.zipIdx i).flatMap fun entry =>
      (read entry.1).violations.map (Violation.under (.index entry.2)) := by
  induction values generalizing i with
  | nil => rfl
  | cons value rest ih => simp [items, ih]

theorem explained_items (h : Reader.Explains read) (values : List Value) (i : Nat) :
    (items read i values).Explained := by
  induction values generalizing i with
  | nil => exact explained_ok []
  | cons value rest ih => exact (((h value).under (.index i)).map List.cons).seq (ih (i + 1))

theorem explains_listOf (h : Reader.Explains read) : Reader.Explains (listOf read) := by
  intro value
  unfold listOf
  split
  · exact explained_items h _ 0
  · exact explained_refuse _

/-- A list that needs an item and has no valid one says so, after all that is wrong with its
items. -/
theorem violations_nonemptyListOf {values : List Value} :
    (nonemptyListOf read (.list values)).violations = (items read 0 values).violations ++
      if values.any fun value => (read value).isOk then [] else [⟨[], .noValidItem⟩] := by
  rw [nonemptyListOf]
  split
  · rw [List.append_nil]
  · rfl

theorem explains_nonemptyListOf (h : Reader.Explains read) :
    Reader.Explains (nonemptyListOf read) := by
  intro value
  unfold nonemptyListOf
  split
  · split
    · exact explained_items h _ 0
    · intro hnone
      simp at hnone
  · exact explained_refuse _

/-! ## Fields -/

theorem explained_required {key : FieldKey} (h : Reader.Explains read) (entries : Entries) :
    (required key read entries).Explained := by
  unfold required
  split
  · exact (h _).under _
  · intro hnone
    cases hnone

theorem explained_optional {key : FieldKey} {fallback : α} (h : Reader.Explains read)
    (entries : Entries) : (Validation.optional key fallback read entries).Explained := by
  unfold Validation.optional
  split
  · exact (h _).under _
  · exact explained_ok fallback

end ModelGraph.Validation
