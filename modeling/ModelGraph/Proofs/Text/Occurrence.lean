import ModelGraph.Text.Search

/-!
# Parts of joined texts

A part of a text that is made of two pieces lies in one of them or reaches over the place where
they meet. `completions` computes what the second piece would have to begin with in the second
case, so that fixed texts can be checked once and for all (`infix_append_iff_completions`);
`reachesInto` does the same when the second piece is the fixed one.
-/

namespace ModelGraph.Text

/-- A text occurs in another one exactly when its letters are an infix of the other letters. -/
theorem occurs_iff {part s : String} : occurs part s = true ↔ part.toList <:+: s.toList :=
  occursIn_iff

/-! ## Parts over a boundary -/

/-- What is left of `part` after each of its proper beginnings that `s` ends with. -/
def completions (part s : List Char) : List (List Char) :=
  ((List.range part.length).filter fun i => 0 < i && (part.take i).isSuffixOf s).map part.drop

/-- The completions of a part are what a proper beginning at the end of `s` leaves of it. -/
theorem mem_completions {part s rest : List Char} :
    rest ∈ completions part s ↔
      ∃ front, front ≠ [] ∧ rest ≠ [] ∧ part = front ++ rest ∧ front <:+ s := by
  simp only [completions, List.mem_map, List.mem_filter, List.mem_range, Bool.and_eq_true,
    decide_eq_true_eq, List.isSuffixOf_iff_suffix]
  constructor
  · rintro ⟨i, ⟨hi, hpos, hsuffix⟩, rfl⟩
    refine ⟨part.take i, ?_, ?_, (List.take_append_drop i part).symm, hsuffix⟩
    · exact List.ne_nil_of_length_pos (by simp; omega)
    · exact List.ne_nil_of_length_pos (by simp; omega)
  · rintro ⟨front, hfront, hrest, rfl, hsuffix⟩
    have hfrontLength := List.length_pos_iff.2 hfront
    have hrestLength := List.length_pos_iff.2 hrest
    refine ⟨front.length, ⟨by simp; omega, hfrontLength, by simpa using hsuffix⟩, by simp⟩

/-- A part of two joined texts lies in one of them or is completed by the second one. -/
theorem infix_append_iff_completions {part s t : List Char} :
    part <:+: s ++ t ↔ part <:+: s ∨ part <:+: t ∨ ∃ rest ∈ completions part s, rest <+: t := by
  rw [List.infix_append_iff_ne_nil]
  refine or_congr_right (or_congr_right ?_)
  constructor
  · rintro ⟨front, rest, hfront, hrest, hpart, hsuffix, hprefix⟩
    exact ⟨rest, mem_completions.2 ⟨front, hfront, hrest, hpart, hsuffix⟩, hprefix⟩
  · rintro ⟨rest, hmem, hprefix⟩
    obtain ⟨front, hfront, hrest, hpart, hsuffix⟩ := mem_completions.1 hmem
    exact ⟨front, rest, hfront, hrest, hpart, hsuffix, hprefix⟩

/-- Whether `part` can stand over a boundary behind which `t` stands: some proper ending of it is
what `t` begins with. -/
def reachesInto (part t : List Char) : Bool :=
  (List.range part.length).any fun i => 0 < i && (part.drop i).isPrefixOf t

/-- What cannot reach into a text has no proper ending that the text begins with. -/
theorem not_prefix_of_not_reachesInto {part t front rest : List Char}
    (h : reachesInto part t = false) (hpart : part = front ++ rest) (hfront : front ≠ [])
    (hrest : rest ≠ []) : ¬ rest <+: t := by
  intro hprefix
  have hfrontLength := List.length_pos_iff.2 hfront
  have hrestLength := List.length_pos_iff.2 hrest
  have hlength : front.length < part.length := by
    rw [hpart, List.length_append]
    omega
  have hdrop : part.drop front.length = rest := by simp [hpart]
  have hnone := List.any_eq_false.1 h front.length (List.mem_range.2 hlength)
  rw [hdrop, List.isPrefixOf_iff_prefix.2 hprefix] at hnone
  simp [hfrontLength] at hnone

/-- A part that cannot reach into the second of two joined texts lies in one of them. -/
theorem infix_append_iff_of_not_reachesInto {part t : List Char} (h : reachesInto part t = false)
    (s : List Char) : part <:+: s ++ t ↔ part <:+: s ∨ part <:+: t := by
  rw [List.infix_append_iff_ne_nil]
  refine or_congr_right (or_iff_left ?_)
  rintro ⟨front, rest, hfront, hrest, hpart, -, hprefix⟩
  exact not_prefix_of_not_reachesInto h hpart hfront hrest hprefix

/-- A part without the character that stands between two texts lies in one of them. -/
theorem infix_append_cons_iff {part s t : List Char} {c : Char} (h : c ∉ part) :
    part <:+: s ++ c :: t ↔ part <:+: s ∨ part <:+: t := by
  have hstarts : ∀ {rest : List Char}, rest ≠ [] → rest <:+ part → ¬ rest <+: c :: t := by
    rintro (_ | ⟨d, rest⟩) hrest hsuffix hstarts
    · exact hrest rfl
    · obtain ⟨rfl, -⟩ := List.cons_prefix_cons.1 hstarts
      exact h (hsuffix.subset List.mem_cons_self)
  have hreach : reachesInto part (c :: t) = false := by
    refine List.any_eq_false.2 fun i hi => ?_
    have hdrop : part.drop i ≠ [] := by simpa using List.mem_range.1 hi
    simpa using fun _ => hstarts hdrop (List.drop_suffix i part)
  rw [infix_append_iff_of_not_reachesInto hreach, List.infix_cons_iff]
  refine or_congr_right ⟨?_, Or.inr⟩
  rintro (hfront | hinfix)
  · cases hpart : part with
    | nil => exact List.nil_infix
    | cons d rest =>
      exact absurd hfront (hstarts (by simp [hpart]) List.suffix_rfl)
  · exact hinfix

/-! ## Erasing a part -/

/-- Erasing what a text begins with leaves the rest. -/
theorem erase_append (part s : String) : erase part (part ++ s) = s := by
  have htext : (part ++ s).toList = [] ++ part.toList ++ s.toList := by simp
  have hremoved := removeFirst_eq_append htext fun _ _ _ => Nat.zero_le _
  rw [erase, hremoved, List.nil_append, String.ofList_toList]

/-- Erasing what does not occur changes nothing. -/
theorem erase_of_not_occurs {part s : String} (h : occurs part s = false) : erase part s = s := by
  have hcut : cut? part.toList s.toList = none := by simpa [occurs, occursIn] using h
  simp [erase, removeFirst, hcut]

/-- Erasing a nonempty part that occurs changes a text. -/
theorem erase_ne_of_occurs {part s : String} (hpart : part ≠ "") (h : occurs part s = true) :
    erase part s ≠ s := by
  obtain ⟨before, rest, htext⟩ := occurs_iff.1 h
  have hlength := length_removeFirst htext.symm
  have hpos : 0 < part.toList.length := List.length_pos_iff.2 (by simpa using hpart)
  intro heq
  have hsame : (removeFirst part.toList s.toList).length = s.toList.length := by
    rw [← String.toList_ofList (l := removeFirst part.toList s.toList)]
    exact congrArg (fun t : String => t.toList.length) heq
  omega

/-- A part that cannot overlap itself is erased where it was put, behind a text in which it does
not occur. -/
theorem erase_append_self {part s : String}
    (hpart : reachesInto part.toList part.toList = false) (hs : occurs part s = false) :
    erase part (s ++ part) = s := by
  have hnot : ¬ part.toList <:+: s.toList := by simp [← occurs_iff, hs]
  have hremoved : removeFirst part.toList (s.toList ++ part.toList) = s.toList ++ [] := by
    refine removeFirst_eq_append (by simp) fun before rest htext => ?_
    refine Nat.le_of_not_lt fun hlt => ?_
    -- An earlier occurrence ends behind `s`, so it goes on with a beginning of the part itself.
    rw [List.append_assoc] at htext
    rcases List.append_eq_append_iff.1 htext with ⟨extra, hbefore, -⟩ | ⟨gap, hgap, hbehind⟩
    · rw [hbefore, List.length_append] at hlt
      omega
    · have hgapPos : gap ≠ [] := by
        rintro rfl
        simp [hgap] at hlt
      rcases List.append_eq_append_iff.1 hbehind with ⟨left, hleft, -⟩ | ⟨right, hright, hover⟩
      · exact hnot ⟨before, left, by rw [hgap, hleft, List.append_assoc]⟩
      · by_cases hempty : right = []
        · exact hnot ⟨before, [], by simp [hgap, hright, hempty]⟩
        · exact not_prefix_of_not_reachesInto hpart hright hgapPos hempty ⟨rest, hover.symm⟩
  rw [erase, String.toList_append, hremoved, List.append_nil, String.ofList_toList]

end ModelGraph.Text
