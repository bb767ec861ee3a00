import ModelGraph.Proofs.Directive.Extract

/-!
# Extracting from what an extraction left

An extraction joins the texts before and after the marker that it takes out. `Straddles` says that
a marker stands across this seam: it begins in the first text and ends in the second.
`extract_cleared_eq_none_iff` says that a straddling marker is all that a second extraction can
find in a text that had one marker.
-/

namespace ModelGraph

namespace Marker

/-- A marker stands across the seam of two texts that are joined. -/
def Straddles (before rest : List Char) : Prop :=
  ∃ m left right, WellFormed m ∧ left ≠ [] ∧ right ≠ [] ∧ m.text = left ++ right ∧
    left <:+ before ∧ right <+: rest

/-- A text is marked when the text of a well-formed marker is a part of it. -/
theorem marked_iff {s : List Char} : Marked s ↔ ∃ m, WellFormed m ∧ m.text <:+: s := by
  constructor
  · rintro ⟨before, m, rest, hm, htext⟩
    exact ⟨m, hm, before, rest, htext.symm⟩
  · rintro ⟨m, hm, before, rest, htext⟩
    exact ⟨before, m, rest, hm, htext.symm⟩

/-- A marker of two joined texts stands in one of them or across the seam. -/
theorem marked_append_iff {before rest : List Char} :
    Marked (before ++ rest) ↔ Marked before ∨ Marked rest ∨ Straddles before rest := by
  simp only [marked_iff, List.infix_append_iff_ne_nil]
  constructor
  · rintro ⟨m, hm, hbefore | hrest | ⟨left, right, hleft, hright, htext, hsuffix, hprefix⟩⟩
    · exact Or.inl ⟨m, hm, hbefore⟩
    · exact Or.inr (Or.inl ⟨m, hm, hrest⟩)
    · exact Or.inr (Or.inr ⟨m, left, right, hm, hleft, hright, htext, hsuffix, hprefix⟩)
  · rintro (⟨m, hm, hbefore⟩ | ⟨m, hm, hrest⟩ |
      ⟨m, left, right, hm, hleft, hright, htext, hsuffix, hprefix⟩)
    · exact ⟨m, hm, Or.inl hbefore⟩
    · exact ⟨m, hm, Or.inr (Or.inl hrest)⟩
    · exact ⟨m, hm, Or.inr (Or.inr ⟨left, right, hleft, hright, htext, hsuffix, hprefix⟩)⟩

/-- The marker `m` stands in `s`, and no marker stands anywhere else in `s`. -/
structure StandsAlone (s before : List Char) (m : Marker) (rest : List Char) : Prop
    extends Stands s before m rest where
  alone : ∀ before' m' rest', Stands s before' m' rest' → before' = before

namespace StandsAlone

variable {s before rest : List Char} {m : Marker}

/-- A marker that stands alone stands first. -/
theorem standsFirst (h : StandsAlone s before m rest) : StandsFirst s before m rest :=
  ⟨h.toStands, fun before' m' rest' h' => by rw [h.alone before' m' rest' h']⟩

/-- The text before a marker that stands alone has no marker. -/
theorem not_marked_before (h : StandsAlone s before m rest) : ¬ Marked before := by
  rintro ⟨before', m', gap, hm', hbefore⟩
  have hstands : Stands s before' m' (gap ++ m.text ++ rest) :=
    ⟨hm', by simp [h.text_eq, hbefore]⟩
  have hlength := congrArg List.length hbefore
  simp [h.alone _ _ _ hstands, text, opening] at hlength

/-- The text after a marker that stands alone has no marker. -/
theorem not_marked_rest (h : StandsAlone s before m rest) : ¬ Marked rest := by
  rintro ⟨gap, m', rest', hm', hrest⟩
  have hstands : Stands s (before ++ m.text ++ gap) m' rest' :=
    ⟨hm', by simp [h.text_eq, hrest]⟩
  have hlength := congrArg List.length (h.alone _ _ _ hstands)
  simp [text, opening] at hlength

/-- When a marker that stands alone is taken out, a marker is left only across the seam. -/
theorem marked_append_iff (h : StandsAlone s before m rest) :
    Marked (before ++ rest) ↔ Straddles before rest := by
  rw [Marker.marked_append_iff]
  simp [h.not_marked_before, h.not_marked_rest]

end StandsAlone

/-- A first marker with no marker after it stands alone. -/
theorem StandsFirst.standsAlone {s before rest : List Char} {m : Marker}
    (h : StandsFirst s before m rest) (hrest : ¬ Marked rest) : StandsAlone s before m rest := by
  refine ⟨h.toStands, ?_⟩
  intro before' m' rest' h'
  rcases h.same_or_behind h' (h.least _ _ _ h') with hsame | ⟨gap, -, hgap⟩
  · exact hsame
  · exact absurd ⟨gap, m', rest', h'.wellFormed, hgap⟩ hrest

end Marker

open Marker

/-- Where one marker stands and its tag is known, the extraction succeeds, and extracting again
from the text it left finds nothing exactly when no marker stands across the seam. -/
theorem Directive.extract_cleared_eq_none_iff {documentation : String} {before rest : List Char}
    {m : Marker} (h : StandsAlone documentation.toList before m rest)
    (htag : m.tag = importTag.toList) (model : String) :
    ∃ directive, extract (some documentation) model = .ok (some directive) ∧
      (extract (some directive.cleared) model = .ok none ↔ ¬ Straddles before rest) := by
  refine ⟨_, extract_of_import h.standsFirst htag model, ?_⟩
  rw [extract_eq_none_iff, String.toList_ofList, h.marked_append_iff]

/-- Text around the marker that looks like parts of one, but not like one marker, leaves nothing. -/
theorem Directive.extract_cleared_eq_none_of_fragments :
    ∃ directive, extract (some "see @zod.im @zod.import([x]) and port([x])") "User" =
        .ok (some directive) ∧ extract (some directive.cleared) "User" = .ok none := by
  have hstands : StandsAlone "see @zod.im @zod.import([x]) and port([x])".toList
      "see @zod.im ".toList ⟨"import".toList, "x".toList⟩ " and port([x])".toList :=
    (find?_eq_some_iff.1 (by decide +kernel)).standsAlone (find?_eq_none_iff.1 (by decide +kernel))
  have hseam : ¬ Straddles "see @zod.im ".toList " and port([x])".toList := by
    rw [← hstands.marked_append_iff, ← find?_eq_none_iff]
    decide +kernel
  obtain ⟨directive, hextract, hcleared⟩ := extract_cleared_eq_none_iff hstands rfl "User"
  exact ⟨directive, hextract, hcleared.2 hseam⟩

/-- Taking out the only marker of a text can leave a text with a marker, which is found next. -/
theorem Directive.extract_cleared_ne_none_of_seam :
    StandsAlone "@zod.im@zod.import([x])port([x])".toList "@zod.im".toList
        ⟨"import".toList, "x".toList⟩ "port([x])".toList ∧
      ∃ directive, extract (some "@zod.im@zod.import([x])port([x])") "User" =
          .ok (some directive) ∧ extract (some directive.cleared) "User" ≠ .ok none := by
  have hstands : StandsAlone "@zod.im@zod.import([x])port([x])".toList "@zod.im".toList
      ⟨"import".toList, "x".toList⟩ "port([x])".toList :=
    (find?_eq_some_iff.1 (by decide +kernel)).standsAlone (find?_eq_none_iff.1 (by decide +kernel))
  refine ⟨hstands, _, extract_of_import hstands.standsFirst rfl "User", ?_⟩
  rw [Ne, extract_eq_none_iff, ← find?_eq_none_iff]
  decide +kernel

end ModelGraph
