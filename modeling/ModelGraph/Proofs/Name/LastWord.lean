import ModelGraph.Proofs.Name.Letters

/-!
# The last word of a name

A plural is made from the last word of a name alone. `LastWord` says what the last word is, whatever
the search for it does, and `CutsFirst` how a name is read, with a line break at its end or without.
Read `pluralLettersWith_of_cutsFirst` first: it gives the plural of every name that can be read, and
`exists_cuts_iff` says which can. `pluralWith_changes_last_word` is about names without line breaks.
-/

namespace ModelGraph.Name

/-! ## Words -/

/-- The form of a last word: a capital or nothing, then small letters and digits. -/
inductive WordForm : List Char → Prop
  | small {s : List Char} (hs : ∀ c ∈ s, isSmall c = true) : WordForm s
  | capitalized {c : Char} {s : List Char} (hc : c.isUpper = true)
      (hs : ∀ c ∈ s, isSmall c = true) : WordForm (c :: s)

/-- A capitalized word: a capital, then small letters and digits. -/
def Capitalized (word : List Char) : Prop :=
  ∃ c s, word = c :: s ∧ c.isUpper = true ∧ ∀ d ∈ s, isSmall d = true

/-- The text `last` is the longest ending of `s` that has the form of a last word, and `head` stands
before it. -/
structure LastWord (s head last : List Char) : Prop where
  text_eq : s = head ++ last
  form : WordForm last
  longest : ∀ front back, s = front ++ back → WordForm back → back.length ≤ last.length

theorem isLastWord_iff {s : List Char} : isLastWord s = true ↔ WordForm s := by
  cases s with
  | nil => exact iff_of_true rfl (.small (by simp))
  | cons c r =>
      simp only [isLastWord, Bool.and_eq_true, Bool.or_eq_true, List.all_eq_true]
      constructor
      · rintro ⟨hc | hc, hr⟩
        · exact .capitalized hc hr
        · exact .small (List.forall_mem_cons.2 ⟨hc, hr⟩)
      · intro h
        cases h with
        | small hs => exact ⟨.inr (hs c (by simp)), fun d hd => hs d (by simp [hd])⟩
        | capitalized hc hs => exact ⟨.inl hc, hs⟩

/-- A capital can only begin a word. -/
theorem WordForm.eq_nil_of_capital {front s : List Char} {c : Char}
    (h : WordForm (front ++ c :: s)) (hc : c.isUpper = true) : front = [] := by
  have hnot := not_isSmall_of_isUpper hc
  cases front with
  | nil => rfl
  | cons d front =>
      -- Behind the first letter a word has small letters and digits only.
      have hall : ∀ e ∈ front ++ c :: s, isSmall e = true := by
        cases h with
        | small hs => exact fun e he => hs e (List.mem_cons_of_mem d he)
        | capitalized _ hs => exact hs
      rw [hall c (by simp)] at hnot
      cases hnot

/-- A word has no line break. -/
theorem WordForm.lineBreak_notMem {s : List Char} (h : WordForm s) : '\n' ∉ s := by
  intro hmem
  cases h with
  | small hs => exact absurd (hs _ hmem) (by decide)
  | capitalized hc hs =>
      rcases List.mem_cons.1 hmem with rfl | hmem
      · exact absurd hc (by decide)
      · exact absurd (hs _ hmem) (by decide)

/-! ## The longest word at the end -/

/-- The search finds the last word of every text. -/
theorem lastWord_splitLastWord (s : List Char) :
    LastWord s (splitLastWord s).1 (splitLastWord s).2 := by
  induction s with
  | nil => exact ⟨rfl, .small (by simp [splitLastWord]), fun front back h _ => by simp_all⟩
  | cons c r ih =>
      rw [splitLastWord]
      split
      · next hword =>
          refine ⟨rfl, isLastWord_iff.1 hword, fun front back h _ => ?_⟩
          rw [h, List.length_append]
          exact Nat.le_add_left ..
      · next hword =>
          refine ⟨congrArg (c :: ·) ih.text_eq, ih.form, fun front back h hback => ?_⟩
          cases front with
          | nil =>
              obtain rfl : c :: r = back := h
              exact absurd (isLastWord_iff.2 hback) hword
          | cons d front => exact ih.longest front back (List.cons.inj h).2 hback

/-- A text has one last word. -/
theorem LastWord.unique {s head head' last last' : List Char} (h : LastWord s head last)
    (h' : LastWord s head' last') : head = head' ∧ last = last' := by
  have hlength : last.length = last'.length :=
    Nat.le_antisymm (h'.longest head last h.text_eq h.form)
      (h.longest head' last' h'.text_eq h'.form)
  exact List.append_inj' (h.text_eq.symm.trans h'.text_eq) hlength

theorem splitLastWord_eq_iff {s head last : List Char} :
    splitLastWord s = (head, last) ↔ LastWord s head last := by
  constructor
  · intro h
    have hfound := lastWord_splitLastWord s
    rwa [h] at hfound
  · intro h
    obtain ⟨hhead, hlast⟩ := (lastWord_splitLastWord s).unique h
    exact Prod.ext hhead hlast

/-- A capitalized word behind any text is the last word of the whole. -/
theorem lastWord_append_capitalized (front : List Char) {word : List Char}
    (h : Capitalized word) : LastWord (front ++ word) front word := by
  obtain ⟨c, s, rfl, hc, hs⟩ := h
  refine ⟨rfl, .capitalized hc hs, fun before back heq hback => ?_⟩
  rcases List.append_eq_append_iff.1 heq with ⟨gap, rfl, hword⟩ | ⟨gap, rfl, rfl⟩
  · rw [hword, List.length_append]
    exact Nat.le_add_left ..
  · simp [hback.eq_nil_of_capital hc]

/-! ## Names that can be read -/

/-- A name can be read as `head` and `last`: there is no line break in `head`, `last` has the form
of a last word, and nothing but perhaps one line break stands behind it. -/
structure Cuts (s head last : List Char) : Prop where
  head_line : '\n' ∉ head
  form : WordForm last
  text_eq : s = head ++ last ∨ s = head ++ last ++ ['\n']

/-- Of all readings of a name, this is the one with the least text before the last word. -/
structure CutsFirst (s head last : List Char) : Prop extends Cuts s head last where
  least : ∀ head' last', Cuts s head' last' → head.length ≤ head'.length

/-- A break at the end is all that can be dropped. -/
theorem dropFinalBreak_eq_or (s : List Char) :
    s = dropFinalBreak s ∨ s = dropFinalBreak s ++ ['\n'] := by
  unfold dropFinalBreak
  split
  · next hlast =>
      obtain ⟨front, rfl⟩ := List.getLast?_eq_some_iff.1 hlast
      exact .inr (by simp)
  · exact .inl rfl

/-- A text is read without its break at the end, and no other break may be in it. -/
theorem cuts_iff {s head last : List Char} :
    Cuts s head last ↔
      '\n' ∉ dropFinalBreak s ∧ dropFinalBreak s = head ++ last ∧ WordForm last := by
  constructor
  · rintro ⟨hhead, hform, htext⟩
    have hnone : '\n' ∉ head ++ last := by simp [hhead, hform.lineBreak_notMem]
    have hdrop : dropFinalBreak s = head ++ last := by
      rcases htext with rfl | rfl
      · exact if_neg fun hlast => hnone (List.mem_of_getLast? hlast)
      · simp [dropFinalBreak]
    exact ⟨hdrop ▸ hnone, hdrop, hform⟩
  · rintro ⟨hnone, hdrop, hform⟩
    rw [hdrop] at hnone
    refine ⟨fun h => hnone (List.mem_append_left _ h), hform, ?_⟩
    exact hdrop ▸ dropFinalBreak_eq_or s

/-- A name can be read unless a line break stands before its last character. -/
theorem exists_cuts_iff {s : List Char} : (∃ head last, Cuts s head last) ↔ '\n' ∉ s.dropLast := by
  rw [← lineBreak_mem_dropFinalBreak_iff]
  constructor
  · rintro ⟨head, last, h⟩
    exact (cuts_iff.1 h).1
  · intro hnone
    have hword := lastWord_splitLastWord (dropFinalBreak s)
    exact ⟨_, _, cuts_iff.2 ⟨hnone, hword.text_eq, hword.form⟩⟩

/-- The least text is left before the last word when that is the longest one. -/
theorem cutsFirst_iff {s head last : List Char} :
    CutsFirst s head last ↔
      '\n' ∉ dropFinalBreak s ∧ LastWord (dropFinalBreak s) head last := by
  constructor
  · rintro ⟨hcuts, hleast⟩
    obtain ⟨hnone, htext, hform⟩ := cuts_iff.1 hcuts
    refine ⟨hnone, htext, hform, fun front back hback hbackForm => ?_⟩
    have hle := hleast front back (cuts_iff.2 ⟨hnone, hback, hbackForm⟩)
    have hlength := congrArg List.length (htext.symm.trans hback)
    simp only [List.length_append] at hlength
    omega
  · rintro ⟨hnone, htext, hform, hlongest⟩
    refine ⟨cuts_iff.2 ⟨hnone, htext, hform⟩, fun front back h => ?_⟩
    obtain ⟨-, hback, hbackForm⟩ := cuts_iff.1 h
    have hle := hlongest front back hback hbackForm
    have hlength := congrArg List.length (htext.symm.trans hback)
    simp only [List.length_append] at hlength
    omega

/-- Without line breaks a name is read as what stands before its last word, and that word. -/
theorem cutsFirst_iff_lastWord {s head last : List Char} (hs : '\n' ∉ s) :
    CutsFirst s head last ↔ LastWord s head last := by
  have hdrop : dropFinalBreak s = s := if_neg fun hlast => hs (List.mem_of_getLast? hlast)
  rw [cutsFirst_iff, hdrop, and_iff_right hs]

/-! ## The plural -/

/-- What the plural has in the place of the last word: its inflection, or an "s" when there is no
last word. -/
def ending (noun : List Char → List Char) (last : List Char) : List Char :=
  if last = [] then ['s'] else inflectWith noun last

/-- The plural of a name that is read as `head` and `last`. A break at the end is lost, but for
names without a last word, which are kept whole. -/
theorem pluralLettersWith_of_cutsFirst (noun : List Char → List Char) {s head last : List Char}
    (hne : s ≠ []) (h : CutsFirst s head last) :
    pluralLettersWith noun s =
      .ok ((if last = [] then s else head) ++ ending noun last) := by
  obtain ⟨hnone, hword⟩ := cutsFirst_iff.1 h
  rw [pluralLettersWith, if_neg hne, if_neg hnone, splitLastWord_eq_iff.2 hword]
  cases last with
  | nil => rfl
  | cons c r => rfl

/-- The plural of letters without a line break has the ending of their last word. -/
theorem pluralLettersWith_of_lastWord (noun : List Char → List Char) {s head last : List Char}
    (hne : s ≠ []) (hs : '\n' ∉ s) (h : LastWord s head last) :
    pluralLettersWith noun s = .ok (head ++ ending noun last) := by
  rw [pluralLettersWith_of_cutsFirst noun hne ((cutsFirst_iff_lastWord hs).2 h)]
  split
  · next hnil => rw [h.text_eq, hnil, List.append_nil]
  · rfl

/-- What stands before a capitalized word is left as it is. -/
theorem pluralLettersWith_append_capitalized (noun : List Char → List Char)
    {front word : List Char} (hfront : '\n' ∉ front) (hword : Capitalized word) :
    pluralLettersWith noun (front ++ word) = .ok (front ++ ending noun word) := by
  have hlast := lastWord_append_capitalized front hword
  have hne : front ++ word ≠ [] := by
    obtain ⟨c, s, rfl, -, -⟩ := hword
    simp
  exact pluralLettersWith_of_lastWord noun hne
    (by simp [hfront, hlast.form.lineBreak_notMem]) hlast

/-- A name has no plural exactly when a line break stands before its last character, which is when
it cannot be read. The plural of any other name without line breaks is what stands before its last
word, with an ending that depends on that word alone, whatever the inflection is; so what stands
before a capitalized word makes no difference to what becomes of the word. -/
theorem pluralWith_changes_last_word (noun : List Char → List Char) (name : String) :
    (∀ fault, pluralWith noun name = .error fault ↔
      fault = .lineBreakInName ∧ '\n' ∈ name.toList.dropLast) ∧
    ('\n' ∈ name.toList.dropLast ↔ ∀ head last, ¬ Cuts name.toList head last) ∧
    (name ≠ "" → '\n' ∉ name.toList →
      ∃ head last, LastWord name.toList head last ∧
        (∀ head' last', LastWord name.toList head' last' → head' = head ∧ last' = last) ∧
        pluralWith noun name = .ok (String.ofList (head ++ ending noun last))) ∧
    ∀ front word, '\n' ∉ front.toList → Capitalized word.toList →
      ∃ plural, pluralWith noun word = .ok plural ∧
        pluralWith noun (front ++ word) = .ok (front ++ plural) := by
  refine ⟨fun fault => ?_, ?_, fun hne hline => ?_, fun front word hfront hword => ?_⟩
  · rw [← pluralLettersWith_eq_error_iff noun, pluralWith]
    cases pluralLettersWith noun name.toList <;> simp [Except.map]
  · rw [← not_iff_not, ← exists_cuts_iff]
    simp
  · have hletters : name.toList ≠ [] := by simpa using hne
    have hlast := lastWord_splitLastWord name.toList
    refine ⟨_, _, hlast, fun _ _ h => h.unique hlast, ?_⟩
    rw [pluralWith, pluralLettersWith_of_lastWord noun hletters hline hlast]
    rfl
  · refine ⟨String.ofList (ending noun word.toList), ?_, ?_⟩
    · rw [pluralWith, ← List.nil_append word.toList,
        pluralLettersWith_append_capitalized noun List.not_mem_nil hword]
      rfl
    · rw [pluralWith, String.toList_append, pluralLettersWith_append_capitalized noun hfront hword]
      simp [Except.map]

/-- Capitals before a last word stay as they are, and so does a word before a capitalized one. -/
theorem plural_of_xmlChild :
    "XMLChild" ≠ "" ∧ '\n' ∉ "XMLChild".toList ∧ plural "XMLChild" = .ok "XMLChildren" ∧
      '\n' ∉ "user1".toList ∧ Capitalized "Child".toList ∧
      ∃ children, plural "Child" = .ok children ∧
        plural "user1Child" = .ok ("user1" ++ children) := by
  have hline : '\n' ∉ "XMLChild".toList := by decide
  have hlast : LastWord "XMLChild".toList "XML".toList "Child".toList :=
    splitLastWord_eq_iff.1 (by decide)
  have hending : ending Noun.plural "Child".toList = "Children".toList := by decide +kernel
  have hchild : Capitalized "Child".toList := ⟨'C', "hild".toList, rfl, rfl, List.all_eq_true.1 rfl⟩
  obtain ⟨-, -, hword, hbefore⟩ := pluralWith_changes_last_word Noun.plural "XMLChild"
  obtain ⟨head, last, -, hunique, hplural⟩ := hword (by decide) hline
  obtain ⟨rfl, rfl⟩ := hunique _ _ hlast
  rw [hending] at hplural
  exact ⟨by decide, hline, hplural, by decide, hchild, hbefore "user1" "Child" (by decide) hchild⟩

end ModelGraph.Name
