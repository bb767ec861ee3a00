import Mathlib.Data.List.DropRight
import Mathlib.Data.List.TakeWhile
import ModelGraph.Text.Classes

/-!
# The ends of a text

What `trim` and `dropRightWhile` leave of a text is seen at its two ends: a text is left alone
exactly when neither of its ends is to go. A run of one character at an end can hide a blank, which
is bare once the run is gone (`BlankBefore`, `BlankBehind`).
-/

namespace ModelGraph.Text

variable {p : Char → Bool} {s : List Char}

/-- A text with no blank at either end that is not all blank. -/
structure Tidy (s : List Char) : Prop where
  front : ∀ c ∈ s.head?, isBlank c = false
  back : ∀ c ∈ s.getLast?, isBlank c = false
  inked : ∃ c ∈ s, isBlank c = false

/-- A blank stands right before the run of `c` at the end of a text. -/
def BlankBefore (c : Char) (s : List Char) : Prop :=
  ∃ front b n, isBlank b = true ∧ s = front ++ b :: List.replicate n c

/-- A blank stands right behind the run of `c` at the front of a text. -/
def BlankBehind (c : Char) (s : List Char) : Prop :=
  ∃ n b rest, isBlank b = true ∧ s = List.replicate n c ++ b :: rest

/-! ## Runs -/

/-- Runs at the front of one list end at the same place when nothing right behind them belongs to
them. -/
theorem run_append_inj {α : Type} {q : α → Bool} {xs ys us vs : List α}
    (hxs : ∀ a ∈ xs, q a = true) (hys : ∀ a ∈ ys, q a = true) (hus : ∀ a ∈ us.head?, q a = false)
    (hvs : ∀ a ∈ vs.head?, q a = false) (h : xs ++ us = ys ++ vs) : xs = ys ∧ us = vs := by
  have hnil : ∀ {ws : List α}, (∀ a ∈ ws.head?, q a = false) → ws.takeWhile q = [] := by
    intro ws hws
    cases ws with
    | nil => rfl
    | cons a rest => exact List.takeWhile_cons_of_neg (by simpa using hws a rfl)
  have hruns := congrArg (List.takeWhile q) h
  rw [List.takeWhile_append_of_pos hxs, List.takeWhile_append_of_pos hys, hnil hus, hnil hvs,
    List.append_nil, List.append_nil] at hruns
  rw [hruns] at h
  exact ⟨hruns, List.append_cancel_left h⟩

/-! ## Dropping at the front -/

/-- What is left does not begin with what was to go. -/
theorem head?_dropWhile_not (p : Char → Bool) (s : List Char) :
    ∀ c ∈ (s.dropWhile p).head?, p c = false := by
  intro c hc
  have hnot := List.head?_dropWhile_not p s
  rw [Option.mem_def.1 hc] at hnot
  simpa using hnot

theorem dropWhile_eq_self_iff : s.dropWhile p = s ↔ ∀ c ∈ s.head?, p c = false := by
  constructor
  · intro h
    exact h ▸ head?_dropWhile_not p s
  · cases s with
    | nil => simp
    | cons c rest => simp +contextual

/-- What is left of a text ends like it. -/
theorem getLast?_dropWhile (h : s.dropWhile p ≠ []) : (s.dropWhile p).getLast? = s.getLast? := by
  obtain ⟨front, hfront⟩ := List.dropWhile_suffix (l := s) p
  have hlast := List.getLast?_append_of_ne_nil front h
  rw [hfront] at hlast
  exact hlast.symm

/-- A character that is not to go keeps what stands behind it. -/
theorem dropWhile_append_cons {c : Char} (front back : List Char) (hc : p c = false) :
    (front ++ c :: back).dropWhile p = front.dropWhile p ++ c :: back := by
  rw [List.dropWhile_append]
  split
  · next hempty => simp [List.isEmpty_iff.1 hempty, hc]
  · rfl

/-- Behind a run there is a blank exactly when a blank is left first once the run is gone. -/
theorem blankBehind_iff {c : Char} (hc : isBlank c = false) :
    BlankBehind c s ↔ ∃ b ∈ (s.dropWhile (· == c)).head?, isBlank b = true := by
  constructor
  · rintro ⟨n, b, rest, hb, rfl⟩
    have hne : (b == c) = false := by
      rw [beq_eq_false_iff_ne]
      rintro rfl
      rw [hb] at hc
      cases hc
    refine ⟨b, ?_, hb⟩
    rw [List.dropWhile_append_of_pos (by simp), List.dropWhile_cons_of_neg (by simp [hne])]
    rfl
  · rintro ⟨b, hmem, hb⟩
    obtain ⟨rest, hrest⟩ := List.head?_eq_some_iff.1 hmem
    refine ⟨(s.takeWhile (· == c)).length, b, rest, hb, ?_⟩
    have hrun : s.takeWhile (· == c) = List.replicate (s.takeWhile (· == c)).length c :=
      List.eq_replicate_length.2 fun d hd => by simpa using List.mem_takeWhile_imp hd
    rw [← hrun, ← hrest, List.takeWhile_append_dropWhile]

/-! ## Dropping at the end -/

theorem dropRightWhile_prefix : dropRightWhile p s <+: s :=
  List.rdropWhile_prefix p s

/-- What is left does not end with what was to go. -/
theorem getLast?_dropRightWhile_not (p : Char → Bool) (s : List Char) :
    ∀ c ∈ (dropRightWhile p s).getLast?, p c = false := by
  rw [dropRightWhile, List.getLast?_reverse]
  exact head?_dropWhile_not p s.reverse

theorem dropRightWhile_eq_self_iff : dropRightWhile p s = s ↔ ∀ c ∈ s.getLast?, p c = false := by
  rw [dropRightWhile, List.reverse_eq_iff, dropWhile_eq_self_iff, List.head?_reverse]

/-- What is left of a text begins like it. -/
theorem head?_dropRightWhile (h : dropRightWhile p s ≠ []) :
    (dropRightWhile p s).head? = s.head? := by
  obtain ⟨back, hback⟩ := dropRightWhile_prefix (p := p) (s := s)
  have hfirst : (dropRightWhile p s ++ back).head? = (dropRightWhile p s).head? :=
    List.head?_append_of_ne_nil _ h
  rw [hback] at hfirst
  exact hfirst.symm

/-- A character that is not to go keeps what stands before it. -/
theorem dropRightWhile_append_cons {c : Char} (front back : List Char) (hc : p c = false) :
    dropRightWhile p (front ++ c :: back) = front ++ c :: dropRightWhile p back := by
  have hreverse := dropWhile_append_cons back.reverse front.reverse hc
  simp [dropRightWhile, hreverse]

/-- Before a run there is a blank exactly when a blank is left last once the run is gone. -/
theorem blankBefore_iff {c : Char} (hc : isBlank c = false) :
    BlankBefore c s ↔ ∃ b ∈ (dropRightWhile (· == c) s).getLast?, isBlank b = true := by
  have hreverse : BlankBefore c s ↔ BlankBehind c s.reverse := by
    constructor
    · rintro ⟨front, b, n, hb, rfl⟩
      exact ⟨n, b, front.reverse, hb, by simp⟩
    · rintro ⟨n, b, rest, hb, hs⟩
      exact ⟨rest.reverse, b, n, hb, by rw [List.reverse_eq_iff.1 hs]; simp⟩
  rw [hreverse, blankBehind_iff hc, dropRightWhile, List.getLast?_reverse]

/-! ## Dropping at both ends -/

/-- Nothing is left of a text at either end that was to go at both. -/
theorem trim_ends (s : List Char) :
    (∀ c ∈ (trim s).head?, isBlank c = false) ∧ ∀ c ∈ (trim s).getLast?, isBlank c = false := by
  refine ⟨?_, getLast?_dropRightWhile_not isBlank _⟩
  by_cases hnil : trim s = []
  · simp [hnil]
  · rw [trim, head?_dropRightWhile hnil]
    exact head?_dropWhile_not isBlank s

theorem trim_infix (s : List Char) : trim s <:+: s :=
  dropRightWhile_prefix.isInfix.trans (List.dropWhile_suffix isBlank).isInfix

/-- What is dropped at the end does not count for what is dropped at the front, as long as something
is left. -/
theorem head?_dropWhile_dropRightWhile {q : Char → Bool}
    (h : (dropRightWhile p s).dropWhile q ≠ []) :
    ((dropRightWhile p s).dropWhile q).head? = (s.dropWhile q).head? := by
  obtain ⟨back, hback⟩ := dropRightWhile_prefix (p := p) (s := s)
  have hdrop : s.dropWhile q = (dropRightWhile p s).dropWhile q ++ back := by
    conv_lhs => rw [← hback]
    rw [List.dropWhile_append, if_neg (by simpa using h)]
  rw [hdrop, List.head?_append_of_ne_nil _ h]

/-- When a text does not begin with a blank, what stands before another character that is none is
left of it. -/
theorem length_lt_length_trim {front back : List Char} {c : Char}
    (hfront : ∀ d ∈ front.head?, isBlank d = false) (hc : isBlank c = false) :
    front.length < (trim (front ++ c :: back)).length := by
  rw [trim, dropWhile_append_cons _ _ hc, dropWhile_eq_self_iff.2 hfront,
    dropRightWhile_append_cons _ _ hc, List.length_append, List.length_cons]
  omega

theorem trim_eq_self_iff :
    trim s = s ↔ (∀ c ∈ s.head?, isBlank c = false) ∧ ∀ c ∈ s.getLast?, isBlank c = false := by
  constructor
  · intro h
    exact h ▸ trim_ends s
  · rintro ⟨hfront, hback⟩
    rw [trim, dropWhile_eq_self_iff.2 hfront, dropRightWhile_eq_self_iff.2 hback]

/-- The texts of which `trim` leaves all, and something. -/
theorem tidy_iff : Tidy s ↔ s ≠ [] ∧ trim s = s := by
  rw [trim_eq_self_iff]
  constructor
  · rintro ⟨hfront, hback, c, hc, -⟩
    exact ⟨List.ne_nil_of_mem hc, hfront, hback⟩
  · rintro ⟨hne, hfront, hback⟩
    exact ⟨hfront, hback, s.head hne, List.head_mem hne, hfront _ (List.head?_eq_some_head hne)⟩

instance (s : List Char) : Decidable (Tidy s) :=
  decidable_of_iff _ tidy_iff.symm

end ModelGraph.Text
