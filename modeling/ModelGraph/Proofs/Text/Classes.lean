import Mathlib.Tactic.ByContra
import ModelGraph.Text.Classes

/-!
# Character classes apart

Classes of characters are lists of code point ranges. Two classes whose ranges lie apart have no
character in common (`not_inRanges`); so no word character is blank. What concerns ASCII
characters only is checked character by character (`forall_ascii`).
-/

namespace ModelGraph.Text

/-- What holds of the first 128 characters holds of every ASCII character. -/
theorem forall_ascii {P : Char → Prop} (h : ∀ n < 128, P (Char.ofNat n)) {c : Char}
    (hc : c.toNat < 128) : P c := by
  have hat := h c.toNat hc
  rwa [Char.ofNat_toNat] at hat

/-- Letters and digits of the core class are ASCII characters. -/
theorem toNat_lt_of_isAlphanum {c : Char} (h : c.isAlphanum = true) : c.toNat < 128 := by
  have hclass : (c.isUpper || c.isLower || c.isDigit) = true := h
  simp only [Bool.or_eq_true] at hclass
  rcases hclass with (hupper | hlower) | hdigit
  · have hbounds : c.val ≥ 'A'.val ∧ c.val ≤ 'Z'.val := of_decide_eq_true hupper
    exact Nat.lt_of_le_of_lt (UInt32.le_iff_toNat_le.1 hbounds.2) (by decide)
  · have hbounds : (decide (c.val ≥ 'a'.val) && decide (c.val ≤ 'z'.val)) = true := hlower
    rw [Bool.and_eq_true, decide_eq_true_eq, decide_eq_true_eq] at hbounds
    exact Nat.lt_of_le_of_lt (UInt32.le_iff_toNat_le.1 hbounds.2) (by decide)
  · exact Nat.lt_of_le_of_lt (Char.isDigit_iff_toNat.1 hdigit).2 (by decide)

/-- A capital is a letter. -/
theorem isAlphanum_of_isUpper {c : Char} (h : c.isUpper = true) : c.isAlphanum = true := by
  show (c.isUpper || c.isLower || c.isDigit) = true
  rw [h, Bool.true_or, Bool.true_or]

/-- Whether every range of one list lies apart from every range of another. -/
def rangesApart (ranges others : List (Nat × Nat)) : Bool :=
  ranges.all fun r => others.all fun o => r.2 < o.1 || o.2 < r.1

/-- Classes whose ranges lie apart have no character in common. -/
theorem not_inRanges {ranges others : List (Nat × Nat)} (h : rangesApart ranges others = true)
    {c : Char} (hc : inRanges ranges c = true) : inRanges others c = false := by
  simp only [inRanges, List.any_eq_true, Bool.and_eq_true, decide_eq_true_eq] at hc
  obtain ⟨r, hr, hlow, hhigh⟩ := hc
  simp only [inRanges, List.any_eq_false, Bool.and_eq_true, decide_eq_true_eq]
  intro o ho hin
  have hapart := List.all_eq_true.1 (List.all_eq_true.1 h r hr) o ho
  simp only [Bool.or_eq_true, decide_eq_true_eq] at hapart
  omega

/-- No word character is blank. -/
theorem not_isBlank_of_isWord {c : Char} (h : isWord c = true) : isBlank c = false := by
  by_contra hblank
  rw [Bool.not_eq_false] at hblank
  by_cases hc : c.toNat < 128
  · revert h hblank
    exact forall_ascii (P := fun c => isWord c = true → isBlank c = true → False)
      (by decide) hc
  · have hapart : rangesApart blankRanges wideWordRanges = true := by decide +kernel
    simp [isWord, hc, not_inRanges hapart hblank] at h

end ModelGraph.Text
