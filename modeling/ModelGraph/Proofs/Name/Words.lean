import Mathlib.Data.List.Chain
import ModelGraph.Proofs.Name.LineBreaks
import ModelGraph.Proofs.Text.Joined

/-!
# Names made of words

A name of several words can be written in snake case, in Pascal case or in camel case. All forms of
such a name are the same, whichever of the three spellings it is given in (`forms_of_words`). The
snake case takes three passes over capitalized words; which underscores the first pass puts in
depends on the digits of the words, and the last pass puts in the others.
-/

namespace ModelGraph

/-- The upper case of an ASCII text goes letter by letter. -/
theorem Text.upper_of_ascii {s : List Char} (h : ∀ c ∈ s, c.toNat < 128) :
    Text.upper s = s.map Char.toUpper := by
  induction s with
  | nil => rfl
  | cons c r ih =>
      have hc : c.toNat < 128 := h c (by simp)
      rw [Text.upper, List.flatMap_cons, upperChar, if_pos hc, ← Text.upper,
        ih fun d hd => h d (by simp [hd])]
      rfl

namespace Name

/-! ## Words and their spellings -/

/-- Whether the letters are a word: a small letter, and then small letters and digits, at least
one. -/
def isWord : List Char → Bool
  | c :: d :: r => c.isLower && (d :: r).all isSmall
  | _ => false

/-- A word with its first letter as a capital. -/
def capitalized : List Char → List Char
  | [] => []
  | c :: r => c.toUpper :: r

/-- Words with underscores between them. -/
def joinedSnake (words : List String) : String :=
  "_".intercalate words

/-- Capitalized words. -/
def joinedPascal (words : List String) : String :=
  String.join (words.map fun word => String.ofList (capitalized word.toList))

/-- Capitalized words with the first letter small. -/
def joinedCamel (words : List String) : String :=
  match (joinedPascal words).toList with
  | [] => ""
  | c :: r => String.ofList (c.toLower :: r)

/-- Words in capitals with spaces between them. -/
def joinedSpaced (words : List String) : String :=
  " ".intercalate (words.map fun word => String.ofList (word.toList.map Char.toUpper))

theorem isWord_iff {word : List Char} : isWord word = true ↔
    ∃ c d r, word = c :: d :: r ∧ c.isLower = true ∧ ∀ e ∈ d :: r, isSmall e = true := by
  match word with
  | [] => simp [isWord]
  | [c] => simp [isWord]
  | c :: d :: r =>
      rw [isWord, Bool.and_eq_true, List.all_eq_true]
      constructor
      · rintro ⟨hc, hrest⟩
        exact ⟨c, d, r, rfl, hc, hrest⟩
      · rintro ⟨_, _, _, heq, hc, hrest⟩
        cases heq
        exact ⟨hc, hrest⟩

/-! ## Small letters and digits -/

variable {c : Char}

theorem isSmall_of_isLower (h : c.isLower = true) : isSmall c = true := by
  simp [isSmall, h]

theorem isAlphanum_of_isSmall (h : isSmall c = true) : c.isAlphanum = true := by
  show (c.isUpper || c.isLower || c.isDigit) = true
  rw [Bool.or_assoc, show (c.isLower || c.isDigit) = true from h, Bool.or_true]

theorem toNat_lt_of_isSmall (h : isSmall c = true) : c.toNat < 128 :=
  Text.toNat_lt_of_isAlphanum (isAlphanum_of_isSmall h)

/-- What holds of the small letters and digits among the first 128 characters holds of all of
them. -/
theorem of_isSmall {P : Char → Prop}
    (h : ∀ n < 128, isSmall (Char.ofNat n) = true → P (Char.ofNat n)) (hc : isSmall c = true) :
    P c :=
  Text.forall_ascii (P := fun c => isSmall c = true → P c) h (toNat_lt_of_isSmall hc) hc

theorem not_isUpper_of_isSmall (h : isSmall c = true) : c.isUpper = false :=
  of_isSmall (P := fun c => c.isUpper = false) (by decide) h

theorem toLower_of_isSmall (h : isSmall c = true) : c.toLower = c :=
  of_isSmall (P := fun c => c.toLower = c) (by decide) h

theorem isUpper_toUpper (h : c.isLower = true) : c.toUpper.isUpper = true :=
  of_isSmall (P := fun c => c.isLower = true → c.toUpper.isUpper = true) (by decide)
    (isSmall_of_isLower h) h

theorem toLower_toUpper (h : c.isLower = true) : c.toUpper.toLower = c :=
  of_isSmall (P := fun c => c.isLower = true → c.toUpper.toLower = c) (by decide)
    (isSmall_of_isLower h) h

theorem toUpper_toUpper (h : c.isLower = true) : c.toUpper.toUpper = c.toUpper :=
  of_isSmall (P := fun c => c.isLower = true → c.toUpper.toUpper = c.toUpper) (by decide)
    (isSmall_of_isLower h) h

theorem ne_of_isAlphanum {mark : Char} (hmark : mark.isAlphanum = false)
    (h : c.isAlphanum = true) : c ≠ mark := by
  rintro rfl
  rw [h] at hmark
  cases hmark

/-! ## The passes over texts without capitals -/

section NoCapitals

variable {s : List Char} (h : ∀ c ∈ s, c.isUpper = false)

include h

theorem markWords_of_no_capital (inWord : Bool) : markWords inWord s = s := by
  fun_induction markWords inWord s with
  | case1 inWord c u l r hin ih => rw [ih fun d hd => h d (List.mem_cons_of_mem c hd)]
  | case2 inWord c u l r hin hmark ih =>
      have hu := h u (by simp)
      simp [hu] at hmark
  | case3 inWord c u l r hin hmark ih => rw [ih fun d hd => h d (List.mem_cons_of_mem c hd)]
  | case4 => rfl

theorem mergeMarks_of_no_capital : mergeMarks s = s := by
  fun_induction mergeMarks s with
  | case1 => rfl
  | case2 u r hu ih =>
      have hnone := h u (by simp)
      rw [hu] at hnone
      cases hnone
  | case3 u r hu ih => rw [ih fun d hd => h d (List.mem_cons_of_mem _ hd)]
  | case4 c r hne ih => rw [ih fun d hd => h d (List.mem_cons_of_mem c hd)]

theorem markCapitals_of_no_capital : markCapitals s = s := by
  fun_induction markCapitals s with
  | case1 a u r hmark ih =>
      have hu := h u (by simp)
      simp [hu] at hmark
  | case2 a u r hmark ih => rw [ih fun d hd => h d (List.mem_cons_of_mem a hd)]
  | case3 => rfl

end NoCapitals

/-- A text without capitals only has its other letters put in lower case. -/
theorem snakeLetters_of_no_capital {s : List Char} (h : ∀ c ∈ s, c.isUpper = false) :
    snakeLetters s = Text.lower s := by
  rw [snakeLetters, markWords_of_no_capital h, mergeMarks_of_no_capital h,
    markCapitals_of_no_capital h]

/-! ## Underscores before capitals -/

/-- The second text is the first one with underscores put before some of its capitals. -/
inductive Marks : List Char → List Char → Prop
  | nil : Marks [] []
  | cons (c : Char) {s marked : List Char} : Marks s marked → Marks (c :: s) (c :: marked)
  | mark {u : Char} {s marked : List Char} :
      u.isUpper = true → Marks s marked → Marks (u :: s) ('_' :: u :: marked)

theorem Marks.refl (s : List Char) : Marks s s := by
  induction s with
  | nil => exact .nil
  | cons c s ih => exact .cons c ih

/-- The first pass puts underscores before capitals and does nothing else. -/
theorem marks_markWords (inWord : Bool) (s : List Char) : Marks s (markWords inWord s) := by
  fun_induction markWords inWord s with
  | case1 inWord c u l r hin ih => exact .cons c ih
  | case2 inWord c u l r hin hmark ih =>
      have hu : u.isUpper = true := by
        rw [Bool.and_eq_true, Bool.and_eq_true] at hmark
        exact hmark.1.2
      exact .cons c (.mark hu ih)
  | case3 inWord c u l r hin hmark ih => exact .cons c ih
  | case4 inWord s hshort => exact .refl s

/-- The first pass puts nothing before the first character. -/
theorem exists_markWords_cons (inWord : Bool) (a : Char) (s : List Char) :
    ∃ marked, markWords inWord (a :: s) = a :: marked ∧ Marks s marked := by
  match s with
  | [] => exact ⟨[], rfl, .nil⟩
  | [u] => exact ⟨[u], rfl, .refl [u]⟩
  | u :: l :: r =>
      rw [markWords]
      split
      · exact ⟨_, rfl, marks_markWords true (u :: l :: r)⟩
      · split
        · next hmark =>
            rw [Bool.and_eq_true, Bool.and_eq_true] at hmark
            exact ⟨_, rfl, .mark hmark.1.2 (marks_markWords true (l :: r))⟩
        · exact ⟨_, rfl, marks_markWords false (u :: l :: r)⟩

theorem mergeMarks_cons_of_ne {c : Char} (hc : c ≠ '_') (r : List Char) :
    mergeMarks (c :: r) = c :: mergeMarks r := by
  rw [mergeMarks]
  rintro u t rfl
  exact absurd rfl hc

theorem mergeMarks_mark {u : Char} (hu : u ≠ '_') (r : List Char) :
    mergeMarks ('_' :: u :: r) = '_' :: u :: mergeMarks r := by
  rw [mergeMarks, mergeMarks_cons_of_ne hu]
  rintro v t - heq
  exact hu (List.cons.inj heq).1

/-- The second pass has nothing to merge when all underscores come from the first one. -/
theorem mergeMarks_of_marks {s marked : List Char} (h : Marks s marked)
    (hs : ∀ c ∈ s, c ≠ '_') : mergeMarks marked = marked := by
  induction h with
  | nil => rfl
  | cons c hrest ih =>
      rw [mergeMarks_cons_of_ne (hs c (by simp)), ih fun d hd => hs d (by simp [hd])]
  | mark hu hrest ih =>
      rw [mergeMarks_mark (hs _ (by simp)), ih fun d hd => hs d (by simp [hd])]

/-- The third pass decides character by character, from the character in front. -/
theorem markCapitals_cons_cons (a u : Char) (r : List Char) : markCapitals (a :: u :: r) =
    a :: ((if isSmall a && u.isUpper then ['_'] else []) ++ markCapitals (u :: r)) := by
  rw [markCapitals]
  by_cases hmark : (isSmall a && u.isUpper) = true
  · have hu : isSmall u = false :=
      not_isSmall_of_isUpper (Bool.and_eq_true _ _ ▸ hmark).2
    -- The capital is passed over, but it is no small letter, so it would mark nothing.
    have hpassed : markCapitals (u :: r) = u :: markCapitals r := by
      cases r with
      | nil => rfl
      | cons v r => rw [markCapitals, hu, Bool.false_and, if_neg Bool.false_ne_true]
    rw [if_pos hmark, if_pos hmark, hpassed, List.singleton_append]
  · rw [if_neg hmark, if_neg hmark, List.nil_append]

/-- Every capital but one at the front follows a small letter or a digit. -/
def CapitalsApart (s : List Char) : Prop :=
  s.IsChain fun a u => u.isUpper = true → isSmall a = true

/-- The third pass puts in all underscores that the first one has left out. -/
theorem markCapitals_of_marks {s marked : List Char} (h : Marks s marked) {a : Char}
    (hapart : CapitalsApart (a :: s)) : markCapitals (a :: marked) = markCapitals (a :: s) := by
  induction h generalizing a with
  | nil => rfl
  | cons c hrest ih =>
      rw [markCapitals_cons_cons, markCapitals_cons_cons, ih (List.isChain_cons_cons.1 hapart).2]
  | mark hu hrest ih =>
      obtain ⟨hsmall, hbehind⟩ := List.isChain_cons_cons.1 hapart
      rw [markCapitals_cons_cons, markCapitals_cons_cons, markCapitals_cons_cons, ih hbehind,
        hsmall hu, hu]
      rfl

/-- In a text whose capitals stand apart the first two passes can be left out. -/
theorem snakeLetters_of_capitalsApart {s : List Char} (hs : ∀ c ∈ s, c ≠ '_')
    (hapart : CapitalsApart s) : snakeLetters s = Text.lower (markCapitals s) := by
  rw [snakeLetters, mergeMarks_of_marks (marks_markWords false s) hs]
  cases s with
  | nil => rfl
  | cons a s =>
      obtain ⟨marked, hmarked, hmarks⟩ := exists_markWords_cons false a s
      rw [hmarked, markCapitals_of_marks hmarks hapart]

/-! ## Words one after the other -/

/-- The capitals of a text stand apart, and the third pass makes `marked` of it. -/
structure MarkedAs (s marked : List Char) : Prop where
  apart : CapitalsApart s
  eq_marked : markCapitals s = marked

/-- Nothing is put before a small letter or digit. -/
theorem MarkedAs.cons_small {d : Char} {s marked : List Char} (hd : isSmall d = true)
    (h : MarkedAs (d :: s) (d :: marked)) (c : Char) :
    MarkedAs (c :: d :: s) (c :: d :: marked) := by
  have hnone : d.isUpper = false := not_isUpper_of_isSmall hd
  refine ⟨List.isChain_cons_cons.2 ⟨fun hu => ?_, h.apart⟩, ?_⟩
  · rw [hnone] at hu
    cases hu
  · rw [markCapitals_cons_cons, hnone, Bool.and_false, h.eq_marked]
    rfl

/-- A capital behind a small letter or digit gets an underscore. -/
theorem MarkedAs.cons_capital {a u : Char} {s marked : List Char} (ha : isSmall a = true)
    (hu : u.isUpper = true) (h : MarkedAs (u :: s) marked) :
    MarkedAs (a :: u :: s) (a :: '_' :: marked) := by
  refine ⟨List.isChain_cons_cons.2 ⟨fun _ => ha, h.apart⟩, ?_⟩
  rw [markCapitals_cons_cons, ha, hu, h.eq_marked]
  rfl

/-- A word stays as it is, and leads on to what stands behind its last letter. -/
theorem MarkedAs.word_append {r marked : List Char}
    (h : ∀ {a}, isSmall a = true → MarkedAs (a :: r) (a :: marked)) {d : Char} {t : List Char}
    (ht : ∀ e ∈ d :: t, isSmall e = true) (c : Char) :
    MarkedAs (c :: d :: t ++ r) (c :: d :: t ++ marked) := by
  have hd : isSmall d = true := ht d (by simp)
  induction t generalizing c d with
  | nil => exact (h hd).cons_small hd c
  | cons e t ih =>
      have he : isSmall e = true := ht e (by simp)
      exact (ih (fun b hb => ht b (by simp [hb])) d he).cons_small hd c

/-- Of capitalized words behind a word, the third pass makes words with underscores between them. -/
theorem markedAs_words {words : List (List Char)} (hwords : ∀ word ∈ words, isWord word = true)
    {d : Char} {t : List Char} (ht : ∀ e ∈ d :: t, isSmall e = true) (c : Char) :
    MarkedAs (c :: d :: t ++ words.flatMap capitalized)
      (c :: d :: t ++ words.flatMap fun word => '_' :: capitalized word) := by
  induction words generalizing c d t with
  | nil =>
      refine MarkedAs.word_append (fun {a} _ => ⟨?_, ?_⟩) ht c
      · exact List.isChain_singleton a
      · rfl
  | cons word words ih =>
      obtain ⟨c', d', r, rfl, hc', hr⟩ := isWord_iff.1 (hwords word (by simp))
      have hbehind := ih (fun w hw => hwords w (by simp [hw])) hr c'.toUpper
      exact MarkedAs.word_append (fun ha => hbehind.cons_capital ha (isUpper_toUpper hc')) ht c

/-! ## The spellings as letters -/

/-- Words put one after the other, the first one as it is and the others with a character in
front. -/
theorem intercalate_cons_eq (mark : Char) (first : List Char) (words : List (List Char)) :
    [mark].intercalate (first :: words) = first ++ words.flatMap (mark :: ·) :=
  Text.intercalate_cons_eq_flatMap [mark] first words

theorem map_intercalate (f : Char → Char) (mark : Char) (words : List (List Char)) :
    ([mark].intercalate words).map f = [f mark].intercalate (words.map (List.map f)) := by
  cases words with
  | nil => rfl
  | cons first words =>
      rw [List.map_cons, intercalate_cons_eq, intercalate_cons_eq, List.map_append,
        List.map_flatMap, List.flatMap_map]
      rfl

/-- What holds of the mark and of all letters of the words holds of every letter of the joined
words. -/
theorem forall_mem_intercalate {P : Char → Prop} {mark : Char} (hmark : P mark)
    {words : List (List Char)} (hwords : ∀ word ∈ words, ∀ c ∈ word, P c) :
    ∀ c ∈ [mark].intercalate words, P c := by
  cases words with
  | nil => simp
  | cons first words =>
      intro c hc
      rw [intercalate_cons_eq, List.mem_append, List.mem_flatMap] at hc
      rcases hc with hc | ⟨word, hword, hc⟩
      · exact hwords first (by simp) c hc
      · rcases List.mem_cons.1 hc with rfl | hc
        · exact hmark
        · exact hwords word (by simp [hword]) c hc

/-- Letters inside a word stay when the words of a name are joined. -/
theorem joinCapitalized_false_append {t : List Char} (ht : ∀ e ∈ t, e ≠ '_') (r : List Char) :
    joinCapitalized false (t ++ r) = t ++ joinCapitalized false r := by
  induction t with
  | nil => rfl
  | cons c t ih =>
      rw [List.cons_append, joinCapitalized, if_neg (ht c (by simp)),
        ih fun e he => ht e (by simp [he])]
      rfl

/-- A word gets a capital, and leads on inside the name. -/
theorem joinCapitalized_word_append {c : Char} (hc : c.isAlphanum = true) {t : List Char}
    (ht : ∀ e ∈ t, e.isAlphanum = true) (r : List Char) :
    joinCapitalized true (c :: t ++ r) = c.toUpper :: t ++ joinCapitalized false r := by
  have hfirst : Text.upperChar c = [c.toUpper] := by
    rw [Text.upperChar, if_pos (Text.toNat_lt_of_isAlphanum hc)]
  have hmark : ∀ e ∈ t, e ≠ '_' := fun e he => ne_of_isAlphanum (by decide) (ht e he)
  rw [List.cons_append, joinCapitalized, if_neg (ne_of_isAlphanum (by decide) hc), if_pos rfl,
    hfirst, joinCapitalized_false_append hmark]
  rfl

/-- Behind an underscore every word gets a capital, and the underscores go. -/
theorem joinCapitalized_words {words : List (List Char)}
    (hwords : ∀ word ∈ words, isWord word = true) :
    joinCapitalized false (words.flatMap ('_' :: ·)) = words.flatMap capitalized := by
  induction words with
  | nil => rfl
  | cons word words ih =>
      obtain ⟨c, d, r, rfl, hc, hr⟩ := isWord_iff.1 (hwords word (by simp))
      have hword := joinCapitalized_word_append (isAlphanum_of_isSmall (isSmall_of_isLower hc))
        fun e he => isAlphanum_of_isSmall (hr e he)
      rw [List.flatMap_cons, List.flatMap_cons, List.cons_append, joinCapitalized, if_pos rfl,
        hword, ih fun w hw => hwords w (by simp [hw]), capitalized]

section Words

variable {words : List (List Char)} (hwords : ∀ word ∈ words, isWord word = true)

include hwords

theorem isSmall_of_mem_words : ∀ word ∈ words, ∀ c ∈ word, isSmall c = true := by
  intro word hword c hc
  obtain ⟨d, e, r, rfl, hd, hr⟩ := isWord_iff.1 (hwords word hword)
  rcases List.mem_cons.1 hc with rfl | hc
  · exact isSmall_of_isLower hd
  · exact hr c hc

/-- Capitalized words have letters and digits only. -/
theorem isAlphanum_of_mem_capitalized :
    ∀ c ∈ words.flatMap capitalized, c.isAlphanum = true := by
  intro c hc
  obtain ⟨word, hword, hc⟩ := List.mem_flatMap.1 hc
  obtain ⟨d, e, r, rfl, hd, hr⟩ := isWord_iff.1 (hwords word hword)
  rcases List.mem_cons.1 hc with rfl | hc
  · exact Text.isAlphanum_of_isUpper (isUpper_toUpper hd)
  · exact isAlphanum_of_isSmall (hr c hc)

/-- Words are got back from capitalized ones in lower case. -/
theorem map_toLower_capitalized :
    (words.map capitalized).map (List.map Char.toLower) = words := by
  have hword : ∀ word ∈ words, (capitalized word).map Char.toLower = word := by
    intro word hword
    obtain ⟨c, d, r, rfl, hc, hr⟩ := isWord_iff.1 (hwords word hword)
    rw [capitalized, List.map_cons, toLower_toUpper hc,
      List.map_congr_left fun e he => toLower_of_isSmall (hr e he), List.map_id']
  rw [List.map_map]
  exact (List.map_congr_left hword).trans (List.map_id' words)

variable {c d : Char} {t : List Char} (hc : c.isAlphanum = true)
  (ht : ∀ e ∈ d :: t, isSmall e = true)

include hc ht

theorem isAlphanum_of_mem_spelled :
    ∀ e ∈ c :: d :: t ++ words.flatMap capitalized, e.isAlphanum = true := by
  intro e he
  rw [List.mem_append, List.mem_cons] at he
  rcases he with (rfl | he) | he
  · exact hc
  · exact isAlphanum_of_isSmall (ht e he)
  · exact isAlphanum_of_mem_capitalized hwords e he

/-- The snake case of words that are told apart by their capitals. -/
theorem snakeLetters_spelled : snakeLetters (c :: d :: t ++ words.flatMap capitalized) =
    ['_'].intercalate ((c.toLower :: d :: t) :: words) := by
  have hletters := isAlphanum_of_mem_spelled hwords hc ht
  have hmark : ∀ e ∈ c :: d :: t ++ words.flatMap capitalized, e ≠ '_' := fun e he =>
    ne_of_isAlphanum (by decide) (hletters e he)
  obtain ⟨hapart, hmarked⟩ := markedAs_words hwords ht c
  have hjoined : (c :: d :: t ++ words.flatMap fun word => '_' :: capitalized word) =
      ['_'].intercalate ((c :: d :: t) :: words.map capitalized) := by
    rw [intercalate_cons_eq, List.flatMap_map]
  have hascii : ∀ e ∈ ['_'].intercalate ((c :: d :: t) :: words.map capitalized),
      e.toNat < 128 := by
    refine forall_mem_intercalate (by decide) fun word hword e he => ?_
    refine Text.toNat_lt_of_isAlphanum (hletters e (List.mem_append.2 ?_))
    rcases List.mem_cons.1 hword with rfl | hword
    · exact .inl he
    · obtain ⟨small, hsmall, rfl⟩ := List.mem_map.1 hword
      exact .inr (List.mem_flatMap.2 ⟨small, hsmall, he⟩)
  have hfirst : (c :: d :: t).map Char.toLower = c.toLower :: d :: t := by
    rw [List.map_cons, List.map_congr_left fun e he => toLower_of_isSmall (ht e he), List.map_id']
  rw [snakeLetters_of_capitalsApart hmark hapart, hmarked, hjoined, Text.lower_of_ascii hascii,
    map_intercalate, List.map_cons, hfirst, map_toLower_capitalized hwords]
  rfl

/-- The Pascal case of words that are told apart by their capitals. -/
theorem pascalLetters_spelled : pascalLetters (c :: d :: t ++ words.flatMap capitalized) =
    c.toUpper :: d :: t ++ words.flatMap capitalized := by
  have hmark : ∀ e ∈ words.flatMap capitalized, e ≠ '_' := fun e he =>
    ne_of_isAlphanum (by decide) (isAlphanum_of_mem_capitalized hwords e he)
  have hbehind := joinCapitalized_false_append hmark []
  rw [List.append_nil, joinCapitalized, List.append_nil] at hbehind
  rw [pascalLetters, joinCapitalized_word_append hc fun e he => isAlphanum_of_isSmall (ht e he),
    hbehind]

end Words

/-- The Pascal case of words with underscores between them. -/
theorem pascalLetters_intercalate {words : List (List Char)}
    (hwords : ∀ word ∈ words, isWord word = true) :
    pascalLetters (['_'].intercalate words) = words.flatMap capitalized := by
  cases words with
  | nil => rfl
  | cons first words =>
      obtain ⟨c, d, r, rfl, hc, hr⟩ := isWord_iff.1 (hwords first (by simp))
      have hfirst := joinCapitalized_word_append (isAlphanum_of_isSmall (isSmall_of_isLower hc))
        fun e he => isAlphanum_of_isSmall (hr e he)
      rw [intercalate_cons_eq, pascalLetters, hfirst,
        joinCapitalized_words fun w hw => hwords w (by simp [hw]), List.flatMap_cons, capitalized]

/-- The snake case of words with underscores between them. -/
theorem snakeLetters_intercalate {words : List (List Char)}
    (hwords : ∀ word ∈ words, isWord word = true) :
    snakeLetters (['_'].intercalate words) = ['_'].intercalate words := by
  have hsmall := isSmall_of_mem_words hwords
  have hascii : ∀ c ∈ ['_'].intercalate words, c.toNat < 128 :=
    forall_mem_intercalate (by decide) fun word hword c hc =>
      toNat_lt_of_isSmall (hsmall word hword c hc)
  have hupper : ∀ c ∈ ['_'].intercalate words, c.isUpper = false :=
    forall_mem_intercalate (by decide) fun word hword c hc =>
      not_isUpper_of_isSmall (hsmall word hword c hc)
  have hlower : ∀ c ∈ ['_'].intercalate words, c.toLower = c :=
    forall_mem_intercalate (by decide) fun word hword c hc =>
      toLower_of_isSmall (hsmall word hword c hc)
  rw [snakeLetters_of_no_capital hupper, Text.lower_of_ascii hascii, List.map_congr_left hlower,
    List.map_id']

/-- The spaced capitals of a name follow from its snake case. -/
theorem spacedLetters_of_snakeLetters {s : List Char} {words : List (List Char)}
    (hwords : ∀ word ∈ words, isWord word = true)
    (h : snakeLetters s = ['_'].intercalate words) :
    spacedLetters s = [' '].intercalate (words.map (List.map Char.toUpper)) := by
  have hsmall := isSmall_of_mem_words hwords
  have hspaced : (['_'].intercalate words).map (fun c => if c = '_' then ' ' else c) =
      [' '].intercalate words := by
    have hword : ∀ word ∈ words, word.map (fun c => if c = '_' then ' ' else c) = word := by
      intro word hword
      refine (List.map_congr_left fun c hc => ?_).trans (List.map_id' word)
      exact if_neg (ne_of_isAlphanum (by decide) (isAlphanum_of_isSmall (hsmall word hword c hc)))
    rw [map_intercalate, List.map_congr_left hword, List.map_id']
    rfl
  have hascii : ∀ c ∈ [' '].intercalate words, c.toNat < 128 :=
    forall_mem_intercalate (by decide) fun word hword c hc =>
      toNat_lt_of_isSmall (hsmall word hword c hc)
  rw [spacedLetters, h, hspaced, Text.upper_of_ascii hascii, map_intercalate]
  rfl

/-! ## The spellings as names -/

section Spellings

variable {words : List String}

theorem toList_joinedSnake :
    (joinedSnake words).toList = ['_'].intercalate (words.map String.toList) := by
  rw [joinedSnake, String.toList_intercalate]
  rfl

theorem toList_joinedPascal :
    (joinedPascal words).toList = (words.map String.toList).flatMap capitalized := by
  rw [joinedPascal, String.toList_join, List.flatMap_map, List.flatMap_map]
  simp only [String.toList_ofList]

theorem toList_joinedSpaced : (joinedSpaced words).toList =
    [' '].intercalate ((words.map String.toList).map (List.map Char.toUpper)) := by
  rw [joinedSpaced, String.toList_intercalate, List.map_map, List.map_map]
  congr 1
  exact List.map_congr_left fun word _ => String.toList_ofList

/-- The letters of the spellings of a name of words: the first word is `c :: d :: t`, and `rest` are
the others. The Pascal case and the camel case differ in the first letter only. -/
structure Spelled (words : List String) (c d : Char) (t : List Char) (rest : List (List Char)) :
    Prop where
  isLower : c.isLower = true
  isSmall_of_mem : ∀ e ∈ d :: t, isSmall e = true
  rest_isWord : ∀ word ∈ rest, isWord word = true
  snake_eq : (joinedSnake words).toList = ['_'].intercalate ((c :: d :: t) :: rest)
  pascal_eq : (joinedPascal words).toList = c.toUpper :: d :: t ++ rest.flatMap capitalized
  camel_eq : (joinedCamel words).toList = c :: d :: t ++ rest.flatMap capitalized

theorem exists_spelled (hne : words ≠ []) (hwords : ∀ word ∈ words, isWord word.toList = true) :
    ∃ c d t rest, Spelled words c d t rest := by
  obtain ⟨word, others, rfl⟩ := List.exists_cons_of_ne_nil hne
  obtain ⟨c, d, r, hword, hc, hr⟩ := isWord_iff.1 (hwords word (by simp))
  have hpascal : (joinedPascal (word :: others)).toList =
      c.toUpper :: d :: r ++ (others.map String.toList).flatMap capitalized := by
    rw [toList_joinedPascal, List.map_cons, List.flatMap_cons, hword, capitalized]
  exact ⟨c, d, r, others.map String.toList,
    { isLower := hc
      isSmall_of_mem := hr
      rest_isWord := fun other hother => by
        obtain ⟨text, htext, rfl⟩ := List.mem_map.1 hother
        exact hwords text (List.mem_cons_of_mem word htext)
      snake_eq := by rw [toList_joinedSnake, List.map_cons, hword]
      pascal_eq := hpascal
      camel_eq := by
        rw [joinedCamel, hpascal]
        simp [toLower_toUpper hc] }⟩

namespace Spelled

variable {c d : Char} {t : List Char} {rest : List (List Char)} (h : Spelled words c d t rest)

include h

theorem isAlphanum : c.isAlphanum = true :=
  isAlphanum_of_isSmall (isSmall_of_isLower h.isLower)

theorem isAlphanum_toUpper : c.toUpper.isAlphanum = true :=
  Text.isAlphanum_of_isUpper (isUpper_toUpper h.isLower)

theorem isWord_of_mem : ∀ word ∈ (c :: d :: t) :: rest, isWord word = true := by
  intro word hword
  rcases List.mem_cons.1 hword with rfl | hword
  · exact isWord_iff.2 ⟨c, d, t, rfl, h.isLower, h.isSmall_of_mem⟩
  · exact h.rest_isWord word hword

/-- All three spellings have the same Pascal case. -/
theorem pascalLetters_eq : ∀ name ∈ [joinedSnake words, joinedPascal words, joinedCamel words],
    pascalLetters name.toList = (joinedPascal words).toList := by
  intro name hname
  simp only [List.mem_cons, List.not_mem_nil, or_false] at hname
  rcases hname with rfl | rfl | rfl
  · rw [h.snake_eq, pascalLetters_intercalate h.isWord_of_mem, h.pascal_eq, List.flatMap_cons,
      capitalized]
  · rw [h.pascal_eq, pascalLetters_spelled h.rest_isWord h.isAlphanum_toUpper h.isSmall_of_mem,
      toUpper_toUpper h.isLower]
  · rw [h.camel_eq, pascalLetters_spelled h.rest_isWord h.isAlphanum h.isSmall_of_mem, h.pascal_eq]

/-- All three spellings have the same snake case. -/
theorem snakeLetters_eq : ∀ name ∈ [joinedSnake words, joinedPascal words, joinedCamel words],
    snakeLetters name.toList = (joinedSnake words).toList := by
  intro name hname
  simp only [List.mem_cons, List.not_mem_nil, or_false] at hname
  rcases hname with rfl | rfl | rfl
  · rw [h.snake_eq, snakeLetters_intercalate h.isWord_of_mem]
  · rw [h.pascal_eq, snakeLetters_spelled h.rest_isWord h.isAlphanum_toUpper h.isSmall_of_mem,
      toLower_toUpper h.isLower, h.snake_eq]
  · rw [h.camel_eq, snakeLetters_spelled h.rest_isWord h.isAlphanum h.isSmall_of_mem,
      toLower_of_isSmall (isSmall_of_isLower h.isLower), h.snake_eq]

/-- The camel case is the Pascal case with the first letter in lower case. -/
theorem lowerFirst_pascal :
    Text.lowerFirst (joinedPascal words).toList = (joinedCamel words).toList := by
  have hascii : ∀ e ∈ [c.toUpper], e.toNat < 128 := by
    simpa using Text.toNat_lt_of_isAlphanum h.isAlphanum_toUpper
  have hlower : Text.lower [c.toUpper] = [c] := by
    rw [Text.lower_of_ascii hascii, List.map_singleton, toLower_toUpper h.isLower]
  rw [h.pascal_eq, h.camel_eq]
  show Text.lower [c.toUpper] ++ _ = _
  rw [hlower]
  rfl

/-- A name of words has a plural. -/
theorem exists_plural (noun : List Char → List Char) :
    ∃ plural, pluralWith noun (joinedCamel words) = .ok plural := by
  have hbreak : '\n' ∉ dropFinalBreak (joinedCamel words).toList := by
    intro hmem
    have hletter := dropFinalBreak_subset _ hmem
    rw [h.camel_eq] at hletter
    exact absurd (isAlphanum_of_mem_spelled h.rest_isWord h.isAlphanum h.isSmall_of_mem _ hletter)
      (by decide)
  obtain ⟨plural, hplural⟩ := (exists_pluralLettersWith_iff noun).2 hbreak
  exact ⟨String.ofList plural, by rw [pluralWith, hplural]; rfl⟩

end Spelled

end Spellings

/-- Whichever of its spellings a name of words is given in, it has the same forms: in camel case,
in Pascal case, in snake case, as spaced capitals, and in the plural, whatever the inflection. -/
theorem forms_of_words (noun : List Char → List Char) {words : List String} (hne : words ≠ [])
    (hwords : ∀ word ∈ words, isWord word.toList = true) :
    ∃ plural, ∀ name ∈ [joinedSnake words, joinedPascal words, joinedCamel words],
      formsWith noun name = .ok
        { base := name
          camel := joinedCamel words
          pascal := joinedPascal words
          snake := joinedSnake words
          spaced := joinedSpaced words
          plural } := by
  obtain ⟨c, d, t, rest, hspelled⟩ := exists_spelled hne hwords
  obtain ⟨plural, hplural⟩ := hspelled.exists_plural noun
  refine ⟨plural, fun name hname => ?_⟩
  have hpascal := hspelled.pascalLetters_eq name hname
  have hsnake := hspelled.snakeLetters_eq name hname
  have hcamel : camel name = joinedCamel words := by
    rw [camel, camelLetters, hpascal, hspelled.lowerFirst_pascal, String.ofList_toList]
  have hspaced : spaced name = joinedSpaced words := by
    have hletters : snakeLetters name.toList = ['_'].intercalate (words.map String.toList) :=
      hsnake.trans toList_joinedSnake
    rw [spaced, spacedLetters_of_snakeLetters (by simpa using hwords) hletters,
      ← toList_joinedSpaced, String.ofList_toList]
  rw [formsWith, hcamel, hplural, hspaced, pascal, hpascal, snake, hsnake, String.ofList_toList,
    String.ofList_toList]
  rfl

/-- A name of three words, two of which have digits. -/
theorem forms_of_user_a1_profile2x : ∃ plural, ∀ name ∈
      ["user_a1_profile2x", "UserA1Profile2x", "userA1Profile2x"],
      formsWith Noun.plural name = .ok
        { base := name
          camel := "userA1Profile2x"
          pascal := "UserA1Profile2x"
          snake := "user_a1_profile2x"
          spaced := "USER A1 PROFILE2X"
          plural } :=
  have hsnake : joinedSnake ["user", "a1", "profile2x"] = "user_a1_profile2x" := by decide
  have hpascal : joinedPascal ["user", "a1", "profile2x"] = "UserA1Profile2x" := by decide
  have hcamel : joinedCamel ["user", "a1", "profile2x"] = "userA1Profile2x" := by decide
  have hspaced : joinedSpaced ["user", "a1", "profile2x"] = "USER A1 PROFILE2X" := by decide
  hsnake ▸ hpascal ▸ hcamel ▸ hspaced ▸
    forms_of_words Noun.plural (by decide : ["user", "a1", "profile2x"] ≠ []) (by decide)

end Name

end ModelGraph
