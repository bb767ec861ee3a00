import ModelGraph.Directive.Basic
import ModelGraph.Proofs.Directive.Marker

/-!
# What the extraction of a directive comes to

The extraction searches for a marker but erases a text. `erase_first` shows that the first
occurrence of the text of the first marker is that marker itself, so nothing else is removed.
Read `extract_of_first` first: it gives the outcome on every text that has a marker.
-/

namespace ModelGraph.Directive

open Marker

variable {documentation : String} {before rest : List Char} {m : Marker}

/-- Erasing the text of the first marker removes that marker and nothing else. An earlier
occurrence of its text would be an earlier marker. -/
theorem erase_first (h : StandsFirst documentation.toList before m rest) :
    Text.erase (String.ofList m.text) documentation = String.ofList (before ++ rest) := by
  have hremoved : Text.removeFirst m.text documentation.toList = before ++ rest :=
    Text.removeFirst_eq_append h.text_eq
      fun before' rest' htext => h.least before' m rest' ⟨h.wellFormed, htext⟩
  simp [Text.erase, hremoved]

/-- The outcome on a text whose first marker is known. -/
theorem extract_of_first (h : StandsFirst documentation.toList before m rest) (model : String) :
    extract (some documentation) model =
      if m.tag = importTag.toList then
        .ok (some ⟨(Marker.statements m.payload).map String.ofList, String.ofList (before ++ rest)⟩)
      else
        .error (.unknownTag model (String.ofList m.tag)) := by
  simp only [extract, readOptional, read, find?_eq_some_iff.2 h, erase_first h]
  split <;> rfl

/-- A first marker with the known tag gives its statements and the text around it. -/
theorem extract_of_import (h : StandsFirst documentation.toList before m rest)
    (htag : m.tag = importTag.toList) (model : String) :
    extract (some documentation) model = .ok (some
      { statements := (Marker.statements m.payload).map String.ofList
        cleared := String.ofList (before ++ rest) }) := by
  rw [extract_of_first h, if_pos htag]

/-- The outcome on a text without a marker. -/
theorem extract_of_not_marked (h : ¬ Marked documentation.toList) (model : String) :
    extract (some documentation) model = .ok none := by
  simp [extract, readOptional, read, find?_eq_none_iff.2 h, Except.mapError]

/-- No directive is found exactly in the texts without a marker. -/
theorem extract_eq_none_iff (model : String) :
    extract (some documentation) model = .ok none ↔ ¬ Marked documentation.toList := by
  constructor
  · intro hnone hmarked
    obtain ⟨before, m, rest, hfirst⟩ := hmarked.exists_first
    rw [extract_of_first hfirst] at hnone
    split at hnone <;> cases hnone
  · intro h
    exact extract_of_not_marked h model

/-- The extraction fails exactly when the tag of the first marker is unknown. -/
theorem extract_eq_error_iff (h : StandsFirst documentation.toList before m rest)
    (model : String) :
    (∃ failure, extract (some documentation) model = .error failure) ↔
      m.tag ≠ importTag.toList := by
  rw [extract_of_first h]
  by_cases htag : m.tag = importTag.toList <;> simp [htag]

/-- The extraction fails with the tag of the first marker, when it is unknown. -/
theorem extract_eq_error_iff_first {model : String} {failure : Failure} :
    extract (some documentation) model = .error failure ↔
      ∃ before m rest, StandsFirst documentation.toList before m rest ∧ m.tag ≠ importTag.toList ∧
        failure = .unknownTag model (String.ofList m.tag) := by
  constructor
  · intro h
    by_cases hmarked : Marked documentation.toList
    · obtain ⟨before, m, rest, hfirst⟩ := hmarked.exists_first
      rw [extract_of_first hfirst] at h
      split at h
      · cases h
      · next htag => exact ⟨before, m, rest, hfirst, htag, (Except.error.inj h).symm⟩
    · rw [extract_of_not_marked hmarked] at h
      cases h
  · rintro ⟨before, m, rest, hfirst, htag, rfl⟩
    rw [extract_of_first hfirst, if_neg htag]

/-- The message on an unknown tag names the tag and the model. -/
theorem message_unknownTag (model tag : String) :
    ∃ report, (Failure.unknownTag model tag).report = .ok report ∧
      report.message = .text ("[@zod generator error]: '" ++ tag ++
        "' is not a valid validator key. " ++ ("[Error Location]: Model: '" ++ model ++ "'.")) :=
  ⟨_, rfl, rfl⟩

/-- The first marker of a text decides what is extracted from it. A text without a marker has no
directive. In every other text exactly one marker stands first; an unknown tag is a failure whose
message names the tag and the model, and a known one leaves exactly what stands around the
marker. -/
theorem extract_decided_by_first (documentation model : String) :
    (extract (some documentation) model = .ok none ↔ ¬ Marked documentation.toList) ∧
    (Marked documentation.toList →
      ∃ before m rest, StandsFirst documentation.toList before m rest) ∧
    ∀ before m rest, StandsFirst documentation.toList before m rest →
      (∀ before' m' rest', StandsFirst documentation.toList before' m' rest' →
        before' = before ∧ m' = m ∧ rest' = rest) ∧
      ((∃ failure, extract (some documentation) model = .error failure) ↔
        m.tag ≠ importTag.toList) ∧
      (m.tag ≠ importTag.toList → ∃ failure report,
        extract (some documentation) model = .error failure ∧ failure.report = .ok report ∧
        report.message = .text ("[@zod generator error]: '" ++ String.ofList m.tag ++
          "' is not a valid validator key. " ++
          ("[Error Location]: Model: '" ++ model ++ "'."))) ∧
      (m.tag = importTag.toList → ∃ directive,
        extract (some documentation) model = .ok (some directive) ∧
        directive.cleared = String.ofList (before ++ rest)) := by
  refine ⟨extract_eq_none_iff model, Marked.exists_first, ?_⟩
  intro before m rest hfirst
  refine ⟨fun _ _ _ hfirst' => hfirst'.unique hfirst, extract_eq_error_iff hfirst model, ?_, ?_⟩
  · intro htag
    obtain ⟨report, hreport, hmessage⟩ := message_unknownTag model (String.ofList m.tag)
    exact ⟨_, report, by rw [extract_of_first hfirst, if_neg htag], hreport, hmessage⟩
  · intro htag
    exact ⟨_, extract_of_import hfirst htag model, rfl⟩

end ModelGraph.Directive
