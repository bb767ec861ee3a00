import ModelGraph.Proofs.Name.Letters

/-!
# Line breaks in joined names

Whether a name has forms depends on its line breaks only. When a name is made of a word and a name
that begins with a capital, the camel case keeps the two apart, so it can be read off the pieces:
a word in front changes nothing (`exists_forms_word_append_iff`), and a word behind allows no line
break at all (`exists_forms_append_word_iff`).
-/

namespace ModelGraph

/-- Whether a name begins with a capital. -/
def startsWithCapital (name : String) : Bool :=
  name.toList.head?.any Char.isUpper

/-- A name that begins with a capital is a capital and the rest. -/
theorem startsWithCapital_iff {name : String} : startsWithCapital name = true ↔
    ∃ c r, name.toList = c :: r ∧ c.isUpper = true := by
  unfold startsWithCapital
  cases name.toList <;> simp

namespace Text

/-- The number of a character that comes out as a line break. -/
theorem eq_of_ofNat_eq_lineBreak {n : Nat} (h : Char.ofNat n = '\n') : n = 10 := by
  unfold Char.ofNat at h
  by_cases hvalid : n.isValidChar
  · rw [dif_pos hvalid] at h
    exact congrArg Char.toNat h
  · rw [dif_neg hvalid] at h
    exact absurd h (by decide)

/-- No entry of the table of upper cases gives a line break. -/
theorem upperExpansions_ne_lineBreak :
    ∀ entry ∈ upperExpansions, ∀ n ∈ entry.2, n ≠ 10 := by
  decide

/-- Every run of upper cases ends up above the line break. -/
theorem upperRuns_above_lineBreak : ∀ run ∈ upperRuns, 10 < run.first + run.shift := by
  decide +kernel

/-- Only a line break has a line break in its upper case. -/
theorem lineBreak_mem_upperChar_iff {c : Char} : '\n' ∈ upperChar c ↔ c = '\n' := by
  by_cases hc : c.toNat < 128
  · rw [upperChar, if_pos hc]
    exact forall_ascii (P := fun c => '\n' ∈ [c.toUpper] ↔ c = '\n') (by decide) hc
  · rw [upperChar, if_neg hc]
    have hne : c ≠ '\n' := by
      rintro rfl
      exact hc (by decide)
    refine iff_of_false ?_ hne
    -- Past ASCII, a character has an entry of its own or is moved with its run; neither gives a
    -- line break.
    unfold changeCase
    split
    · next letters hletters =>
        obtain ⟨before, after, htable, -⟩ := List.lookup_eq_some_iff.1 hletters
        intro hmem
        obtain ⟨n, hn, hbreak⟩ := List.mem_map.1 hmem
        have hentry : (c.toNat, letters) ∈ upperExpansions := by
          rw [htable]
          simp
        exact upperExpansions_ne_lineBreak _ hentry n hn (eq_of_ofNat_eq_lineBreak hbreak)
    · rw [List.mem_singleton]
      cases hmove : upperRuns.findSome? fun run => run.move? c.toNat with
      | none => exact hne.symm
      | some n =>
          obtain ⟨run, hrun, hmoved⟩ := List.exists_of_findSome?_eq_some hmove
          intro hbreak
          have hten : n = 10 := eq_of_ofNat_eq_lineBreak hbreak.symm
          have habove := upperRuns_above_lineBreak run hrun
          unfold CaseRun.move? at hmoved
          split at hmoved
          · next hin =>
              have hn : (c.toNat + run.shift).toNat = n := Option.some.inj hmoved
              omega
          · cases hmoved

/-- A capital is its own upper case. -/
theorem upperChar_of_isUpper {c : Char} (hc : c.isUpper = true) : upperChar c = [c] := by
  have hlt := toNat_lt_of_isAlphanum (isAlphanum_of_isUpper hc)
  rw [upperChar, if_pos hlt]
  revert hc
  exact forall_ascii (P := fun c => c.isUpper = true → [c.toUpper] = [c]) (by decide) hlt

end Text

namespace Name

/-! ## Joined words -/

/-- Joining the words of a name neither makes nor loses line breaks. -/
theorem lineBreak_mem_joinCapitalized_iff {s : List Char} {atStart : Bool} :
    '\n' ∈ joinCapitalized atStart s ↔ '\n' ∈ s := by
  induction s generalizing atStart with
  | nil => rfl
  | cons c s ih =>
      by_cases hmark : c = '_'
      · simp [joinCapitalized, hmark, ih]
      · have hfirst : '\n' ∈ (if atStart then Text.upperChar c else [c]) ↔ '\n' = c := by
          cases atStart with
          | true => exact Text.lineBreak_mem_upperChar_iff.trans eq_comm
          | false => exact List.mem_singleton
        simp only [joinCapitalized, hmark, if_false, List.mem_append, List.mem_cons, ih, hfirst]

/-- A capital stays where it is when the words of a name are joined. -/
theorem joinCapitalized_cons_of_isUpper {c : Char} (hc : c.isUpper = true) (r : List Char)
    (atStart : Bool) : joinCapitalized atStart (c :: r) = c :: joinCapitalized false r := by
  have hmark : c ≠ '_' := by
    rintro rfl
    exact absurd hc (by decide)
  cases atStart <;> simp [joinCapitalized, hmark, Text.upperChar_of_isUpper hc]

/-- A text that begins with a capital is joined in the same way everywhere. -/
theorem joinCapitalized_of_capital {t : List Char} (ht : t.head?.any Char.isUpper = true)
    (atStart : Bool) : joinCapitalized atStart t = pascalLetters t := by
  cases t with
  | nil => rfl
  | cons c r =>
      have hc : c.isUpper = true := by simpa using ht
      rw [pascalLetters, joinCapitalized_cons_of_isUpper hc, joinCapitalized_cons_of_isUpper hc]

/-- The Pascal case of two texts, the second of which begins with a capital, is made text by
text. -/
theorem pascalLetters_append (s : List Char) {t : List Char}
    (ht : t.head?.any Char.isUpper = true) :
    pascalLetters (s ++ t) = pascalLetters s ++ pascalLetters t := by
  -- The flag is free: whatever it is when `t` comes, its capital is taken as it is.
  have hjoin : ∀ atStart,
      joinCapitalized atStart (s ++ t) = joinCapitalized atStart s ++ pascalLetters t := by
    induction s with
    | nil => exact joinCapitalized_of_capital ht
    | cons c s ih =>
        intro atStart
        by_cases hmark : c = '_' <;> simp [joinCapitalized, hmark, ih]
  exact hjoin true

/-! ## The break at the end -/

/-- Only the last of two texts loses a break at the end. -/
theorem dropFinalBreak_append (s : List Char) {t : List Char} (ht : t ≠ []) :
    dropFinalBreak (s ++ t) = s ++ dropFinalBreak t := by
  have hlast : (s ++ t).getLast? = t.getLast? := by
    rw [List.getLast?_append, List.getLast?_eq_some_getLast ht]
    rfl
  unfold dropFinalBreak
  rw [hlast]
  split
  · exact List.dropLast_append_of_ne_nil ht
  · rfl

/-- Letters in front do not matter for line breaks before the last letter. -/
theorem lineBreak_mem_dropFinalBreak_append_iff {s t : List Char} (hs : '\n' ∉ s) :
    '\n' ∈ dropFinalBreak (s ++ t) ↔ '\n' ∈ dropFinalBreak t := by
  by_cases ht : t = []
  · subst ht
    rw [List.append_nil]
    exact iff_of_false (fun h => hs (dropFinalBreak_subset s h)) (by simp [dropFinalBreak])
  · rw [dropFinalBreak_append s ht, List.mem_append]
    simp [hs]

/-- A name that begins with a letter has forms exactly when its Pascal case has no line break
before its last letter. -/
theorem exists_forms_iff_pascalLetters {name : String}
    (h : (pascalLetters name.toList).head?.any Char.isAlphanum = true) :
    (∃ names, forms name = .ok names) ↔ '\n' ∉ dropFinalBreak (pascalLetters name.toList) := by
  rw [exists_forms_iff, camelLetters]
  cases hletters : pascalLetters name.toList with
  | nil => rfl
  | cons c r =>
      have hc : c.isAlphanum = true := by simpa [hletters] using h
      have hlower : Text.lower [c] = [c.toLower] :=
        Text.lower_of_ascii (by simpa using Text.toNat_lt_of_isAlphanum hc)
      have hbreak : '\n' ∉ [c] := by
        rw [List.mem_singleton]
        rintro rfl
        exact absurd hc (by decide)
      have hlowerBreak : '\n' ∉ [c.toLower] := by
        rw [List.mem_singleton]
        intro heq
        exact absurd (heq ▸ isAlphanum_toLower hc) (by decide)
      -- Only the first letter differs in the two cases, and it is no line break in either.
      rw [Text.lowerFirst, hlower, lineBreak_mem_dropFinalBreak_append_iff hlowerBreak,
        ← List.singleton_append, lineBreak_mem_dropFinalBreak_append_iff hbreak]

/-! ## A word and a name -/

/-- The Pascal case of a text that begins with a capital begins with that capital. -/
theorem exists_pascalLetters_eq_cons {t : List Char} (ht : t.head?.any Char.isUpper = true) :
    ∃ c r, c.isUpper = true ∧ pascalLetters t = c :: r := by
  cases t with
  | nil => simp at ht
  | cons c r =>
      have hc : c.isUpper = true := by simpa using ht
      exact ⟨c, joinCapitalized false r, hc, joinCapitalized_cons_of_isUpper hc r true⟩

variable {word name : String}

/-- A word in front of a name that begins with a capital does not change whether it has forms. -/
theorem exists_forms_word_append_iff (hword : word.toList.all Char.isAlphanum = true)
    (hname : startsWithCapital name = true) :
    (∃ names, forms (word ++ name) = .ok names) ↔ ∃ names, forms name = .ok names := by
  obtain ⟨c, r, hc, hletters⟩ := exists_pascalLetters_eq_cons hname
  have hcap : c.isAlphanum = true := Text.isAlphanum_of_isUpper hc
  have hwhole : pascalLetters (word ++ name).toList =
      pascalLetters word.toList ++ pascalLetters name.toList := by
    rw [String.toList_append]
    exact pascalLetters_append _ hname
  have hfront : ∀ d ∈ pascalLetters word.toList, d.isAlphanum = true := fun d hd =>
    isAlphanum_of_mem_joinCapitalized (fun c hc => Or.inl (List.all_eq_true.1 hword c hc)) hd
  have hbreak : '\n' ∉ pascalLetters word.toList := fun hmem =>
    absurd (hfront _ hmem) (by decide)
  have hhead : (pascalLetters (word ++ name).toList).head?.any Char.isAlphanum = true := by
    rw [hwhole]
    cases hword : pascalLetters word.toList with
    | nil => simpa [hletters] using hcap
    | cons d s => simpa using hfront d (by simp [hword])
  rw [exists_forms_iff_pascalLetters hhead,
    exists_forms_iff_pascalLetters (by simpa [hletters] using hcap), hwhole,
    lineBreak_mem_dropFinalBreak_append_iff hbreak]

/-- A capitalized word behind a name makes every line break of the name come before its last
letter. -/
theorem exists_forms_append_word_iff (hname : startsWithCapital name = true)
    (hcapital : startsWithCapital word = true) (hword : '\n' ∉ word.toList) :
    (∃ names, forms (name ++ word) = .ok names) ↔ '\n' ∉ name.toList := by
  obtain ⟨c, r, hc, hletters⟩ := exists_pascalLetters_eq_cons hname
  have hwhole : pascalLetters (name ++ word).toList =
      pascalLetters name.toList ++ pascalLetters word.toList := by
    rw [String.toList_append]
    exact pascalLetters_append _ hcapital
  have hcap : c.isAlphanum = true := Text.isAlphanum_of_isUpper hc
  obtain ⟨d, s, -, hbehind⟩ := exists_pascalLetters_eq_cons hcapital
  have hnone : '\n' ∉ dropFinalBreak (pascalLetters word.toList) := fun hmem =>
    hword (lineBreak_mem_joinCapitalized_iff.1 (dropFinalBreak_subset _ hmem))
  have hhead : (pascalLetters (name ++ word).toList).head?.any Char.isAlphanum = true := by
    rw [hwhole, hletters]
    simpa using hcap
  rw [exists_forms_iff_pascalLetters hhead, hwhole, dropFinalBreak_append _ (by simp [hbehind]),
    List.mem_append, pascalLetters, lineBreak_mem_joinCapitalized_iff]
  simp [hnone]

end Name

end ModelGraph
