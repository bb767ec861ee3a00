import ModelGraph.Name.Forms
import ModelGraph.Proofs.Text.Classes

/-!
# Names that have forms

Only a line break can keep a name from having forms (`exists_forms_iff`). The camel case of letters,
digits and underscores is made of letters and digits, so names of that kind have forms.
-/

namespace ModelGraph.Name

/-! ## Letters of the camel case -/

/-- A letter or digit stays one in upper case. -/
theorem isAlphanum_of_mem_upperChar {c d : Char} (hc : c.isAlphanum = true)
    (hd : d ∈ Text.upperChar c) : d.isAlphanum = true := by
  have hlt := Text.toNat_lt_of_isAlphanum hc
  obtain rfl : d = c.toUpper := by simpa [Text.upperChar, hlt] using hd
  revert hc
  exact Text.forall_ascii (P := fun c => c.isAlphanum = true → c.toUpper.isAlphanum = true)
    (by decide) hlt

/-- A letter or digit stays one in lower case. -/
theorem isAlphanum_toLower {c : Char} (hc : c.isAlphanum = true) :
    c.toLower.isAlphanum = true := by
  have hlt := Text.toNat_lt_of_isAlphanum hc
  revert hc
  exact Text.forall_ascii (P := fun c => c.isAlphanum = true → c.toLower.isAlphanum = true)
    (by decide) hlt

/-- A capital is no small letter and no digit. -/
theorem not_isSmall_of_isUpper {c : Char} (hc : c.isUpper = true) : isSmall c = false := by
  have hlt := Text.toNat_lt_of_isAlphanum (Text.isAlphanum_of_isUpper hc)
  revert hc
  exact Text.forall_ascii (P := fun c => c.isUpper = true → isSmall c = false) (by decide) hlt

/-- Joining the words of letters, digits and underscores leaves letters and digits. -/
theorem isAlphanum_of_mem_joinCapitalized {s : List Char}
    (hs : ∀ c ∈ s, c.isAlphanum = true ∨ c = '_') {atStart : Bool} {d : Char}
    (hd : d ∈ joinCapitalized atStart s) : d.isAlphanum = true := by
  induction s generalizing atStart with
  | nil => simp [joinCapitalized] at hd
  | cons c s ih =>
      have htail : ∀ {atStart}, d ∈ joinCapitalized atStart s → d.isAlphanum = true :=
        ih fun c hc => hs c (by simp [hc])
      by_cases hmark : c = '_'
      · exact htail (by simpa [joinCapitalized, hmark] using hd)
      · have hc : c.isAlphanum = true := (hs c (by simp)).resolve_right hmark
        simp only [joinCapitalized, hmark, if_false, List.mem_append] at hd
        rcases hd with hd | hd
        · cases atStart with
          | true => exact isAlphanum_of_mem_upperChar hc (by simpa using hd)
          | false => simpa [List.mem_singleton.1 (by simpa using hd : d ∈ [c])] using hc
        · exact htail hd

/-- The camel case of letters, digits and underscores has letters and digits only. -/
theorem isAlphanum_of_mem_camelLetters {s : List Char}
    (hs : ∀ c ∈ s, c.isAlphanum = true ∨ c = '_') {d : Char} (hd : d ∈ camelLetters s) :
    d.isAlphanum = true := by
  have hjoined : ∀ c ∈ pascalLetters s, c.isAlphanum = true := fun c hc =>
    isAlphanum_of_mem_joinCapitalized hs hc
  cases hletters : pascalLetters s with
  | nil => simp [camelLetters, hletters, Text.lowerFirst] at hd
  | cons c r =>
      have hc : c.isAlphanum = true := hjoined c (by simp [hletters])
      have hlower : Text.lower [c] = [c.toLower] :=
        Text.lower_of_ascii (by simpa using Text.toNat_lt_of_isAlphanum hc)
      simp only [camelLetters, hletters, Text.lowerFirst, hlower, List.cons_append,
        List.nil_append, List.mem_cons] at hd
      rcases hd with rfl | hd
      · exact isAlphanum_toLower hc
      · exact hjoined d (by simp [hletters, hd])

/-! ## Line breaks -/

/-- Nothing is added when a break at the end is dropped. -/
theorem dropFinalBreak_subset (s : List Char) : dropFinalBreak s ⊆ s := by
  unfold dropFinalBreak
  split
  · exact List.dropLast_subset s
  · exact List.Subset.refl s

/-- Letters have a plural exactly when no line break stands before the last of them. -/
theorem exists_pluralLettersWith_iff (noun : List Char → List Char) {s : List Char} :
    (∃ plural, pluralLettersWith noun s = .ok plural) ↔ '\n' ∉ dropFinalBreak s := by
  unfold pluralLettersWith
  by_cases hempty : s = []
  · simp [hempty, dropFinalBreak]
  · by_cases hbreak : '\n' ∈ dropFinalBreak s
    · simp [hempty, hbreak]
    · simp only [hempty, hbreak, if_false, not_false_eq_true, iff_true]
      split <;> exact ⟨_, rfl⟩

/-- What is left without a break at the end has a line break exactly when one stands before the
last letter. -/
theorem lineBreak_mem_dropFinalBreak_iff {s : List Char} :
    '\n' ∈ dropFinalBreak s ↔ '\n' ∈ s.dropLast := by
  unfold dropFinalBreak
  split
  · rfl
  · next hlast =>
      rcases List.eq_nil_or_concat s with rfl | ⟨front, c, rfl⟩
      · rfl
      · rw [List.concat_eq_append, List.getLast?_concat] at hlast
        simp [Ne.symm (fun h => hlast (congrArg some h) : c ≠ '\n')]

/-- The plural of letters fails for one reason only: a line break before the last of them. -/
theorem pluralLettersWith_eq_error_iff (noun : List Char → List Char) {s : List Char}
    {fault : Fault} : pluralLettersWith noun s = .error fault ↔
      fault = .lineBreakInName ∧ '\n' ∈ s.dropLast := by
  rw [← lineBreak_mem_dropFinalBreak_iff]
  unfold pluralLettersWith
  by_cases hempty : s = []
  · simp [hempty, dropFinalBreak]
  · by_cases hbreak : '\n' ∈ dropFinalBreak s
    · simp [hempty, hbreak, eq_comm]
    · simp only [hempty, hbreak, if_false, and_false, iff_false]
      split <;> simp

/-- The forms of a name fail for one reason only: a line break in its camel case before the last
letter. -/
theorem forms_eq_error_iff {name : String} {fault : Fault} : forms name = .error fault ↔
    fault = .lineBreakInName ∧ '\n' ∈ (camel name).toList.dropLast := by
  rw [← pluralLettersWith_eq_error_iff Noun.plural]
  unfold forms formsWith pluralWith
  cases pluralLettersWith Noun.plural (camel name).toList <;> simp [Except.map]

/-- A name has forms exactly when its camel case has no line break before its last letter. -/
theorem exists_forms_iff {name : String} :
    (∃ names, forms name = .ok names) ↔ '\n' ∉ dropFinalBreak (camelLetters name.toList) := by
  rw [← exists_pluralLettersWith_iff Noun.plural]
  unfold forms formsWith pluralWith camel
  rw [String.toList_ofList]
  cases pluralLettersWith Noun.plural (camelLetters name.toList) <;> simp [Except.map]

/-- A name of letters, digits and underscores has forms. -/
theorem exists_forms_of_letters {name : String}
    (h : ∀ c ∈ name.toList, c.isAlphanum = true ∨ c = '_') : ∃ names, forms name = .ok names := by
  rw [exists_forms_iff]
  intro hbreak
  have hmem : '\n' ∈ camelLetters name.toList := dropFinalBreak_subset _ hbreak
  exact absurd (isAlphanum_of_mem_camelLetters h hmem) (by decide)

end ModelGraph.Name
