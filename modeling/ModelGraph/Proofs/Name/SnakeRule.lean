import ModelGraph.Proofs.Name.Words

/-!
# Snake case place by place

The three passes that make the snake case come to one rule for every place of a name, which looks at
the character before the place and at the two behind it (`snake_eq_of_ascii`). The first pass takes
whole words and so leaves out underscores behind them, the second one takes back underscores of the
first pass and of the name, and the third one puts in what was left out. `WordsMarked` says what is
sure about the first pass, and the other two passes decide place by place (`finished`).
-/

namespace ModelGraph.Name

/-! ## The rule -/

/-- Whether a text begins with a small letter. -/
def startsSmall (s : List Char) : Bool :=
  s.head?.any Char.isLower

/-- Whether an underscore belongs between `before` and a capital that `rest` follows. -/
def startsWord (before : Char) (rest : List Char) : Bool :=
  before != '_' && before != '\n' && (isSmall before || startsSmall rest)

/-- Whether an underscore between `before` and `rest` is one too many: it stands behind an
underscore and before a capital that no small letter follows. -/
def isSpareMark (before : Char) : List Char → Bool
  | u :: rest => before == '_' && u.isUpper && !startsSmall rest
  | [] => false

/-- What is written at the place of `c`, which stands behind `before` unless it is the first one. -/
def writtenAt (before : Option Char) (c : Char) (rest : List Char) : List Char :=
  if c.isUpper && before.any (startsWord · rest) then ['_', c]
  else if c == '_' && before.any (isSpareMark · rest) then []
  else [c]

/-- What is written at all places of a text, one after the other. -/
def underscored (before : Option Char) : List Char → List Char
  | [] => []
  | c :: rest => writtenAt before c rest ++ underscored (some c) rest

/-- Nothing but underscores is put in. -/
theorem mem_underscored {before : Option Char} {s : List Char} {c : Char}
    (hc : c ∈ underscored before s) : c = '_' ∨ c ∈ s := by
  induction s generalizing before with
  | nil => simp [underscored] at hc
  | cons d s ih =>
      rw [underscored, List.mem_append] at hc
      rcases hc with hc | hc
      · unfold writtenAt at hc
        split at hc
        · rcases List.mem_pair.1 hc with rfl | rfl
          · exact .inl rfl
          · exact .inr List.mem_cons_self
        · split at hc
          · cases hc
          · exact .inr (List.mem_singleton.1 hc ▸ List.mem_cons_self)
      · exact (ih hc).imp_right (List.mem_cons_of_mem d)

/-! ## The second and the third pass -/

/-- Whether a text begins with a capital. -/
def startsCapital (s : List Char) : Bool :=
  s.head?.any Char.isUpper

/-- What the second and the third pass make of a text behind `before`. -/
def finished (before : Char) : List Char → List Char
  | [] => []
  | c :: rest =>
    (if before == '_' && c == '_' && startsCapital rest then []
      else if isSmall before && c.isUpper then ['_', c]
      else [c]) ++ finished c rest

/-- The second pass keeps the first character. -/
theorem exists_mergeMarks_cons (c : Char) (s : List Char) :
    ∃ merged, mergeMarks (c :: s) = c :: merged := by
  rw [mergeMarks.eq_def]
  split
  · cases ‹c :: s = []›
  · next heq =>
      cases heq
      split <;> exact ⟨_, rfl⟩
  · next heq =>
      cases heq
      exact ⟨_, rfl⟩

/-- The second pass goes on behind a character that is not the first of two underscores before a
capital. -/
theorem mergeMarks_cons_cons {a b : Char} {s : List Char}
    (h : (a == '_' && b == '_' && startsCapital s) = false) :
    mergeMarks (a :: b :: s) = a :: mergeMarks (b :: s) := by
  by_cases hmarks : a = '_' ∧ b = '_'
  · obtain ⟨rfl, rfl⟩ := hmarks
    cases s with
    | nil => rfl
    | cons u s =>
        have hu : u.isUpper = false := by simpa [startsCapital] using h
        rw [mergeMarks, hu, if_neg Bool.false_ne_true]
  · rw [mergeMarks]
    rintro u t rfl heq
    exact hmarks ⟨rfl, (List.cons.inj heq).1⟩

theorem markCapitals_mergeMarks_cons (a : Char) (s : List Char) :
    markCapitals (mergeMarks (a :: s)) = a :: finished a s := by
  induction s generalizing a with
  | nil => rw [mergeMarks, mergeMarks, markCapitals, finished] <;> simp
  | cons b s ih =>
      cases hspare : a == '_' && b == '_' && startsCapital s with
      | true =>
          obtain ⟨⟨rfl, rfl⟩, hs⟩ : (a = '_' ∧ b = '_') ∧ startsCapital s = true := by
            simpa using hspare
          obtain ⟨u, s, rfl⟩ : ∃ u t, s = u :: t := by
            cases s with
            | nil => cases hs
            | cons u t => exact ⟨u, t, rfl⟩
          have hu : u.isUpper = true := hs
          have hmark : u ≠ '_' := by
            rintro rfl
            cases hu
          -- The second underscore goes, and what follows does not see the difference.
          rw [mergeMarks, if_pos hu, ← mergeMarks_mark hmark, ih, finished.eq_def _ ('_' :: _)]
          simp only [hspare, if_true, List.nil_append]
      | false =>
          obtain ⟨merged, hmerged⟩ := exists_mergeMarks_cons b s
          rw [mergeMarks_cons_cons hspare, hmerged, markCapitals_cons_cons, ← hmerged, ih,
            finished, hspare, if_neg Bool.false_ne_true]
          cases isSmall a && b.isUpper <;> rfl

/-! ## The first pass -/

/-- The text `marked` can be what the first pass makes of a text behind `before`: an underscore
stands only before a capital that a small letter follows, and before every such capital, unless
`before` is a line break or a small letter. -/
inductive WordsMarked : Char → List Char → List Char → Prop
  | nil (before : Char) : WordsMarked before [] []
  | keep {before c : Char} {s marked : List Char} :
      (before ≠ '\n' → before.isLower = false → c.isUpper = true → startsSmall s = false) →
      WordsMarked c s marked → WordsMarked before (c :: s) (c :: marked)
  | mark {before u : Char} {s marked : List Char} :
      before ≠ '\n' → u.isUpper = true → startsSmall s = true →
      WordsMarked u s marked → WordsMarked before (u :: s) ('_' :: u :: marked)

/-- The first pass keeps the first character, and every flag leads to such a text behind it. -/
theorem exists_markWords (inWord : Bool) (a : Char) :
    (s : List Char) → ∃ marked, markWords inWord (a :: s) = a :: marked ∧ WordsMarked a s marked
  | [] => ⟨[], rfl, .nil a⟩
  | [u] => ⟨[u], rfl, .keep (fun _ _ _ => rfl) (.nil u)⟩
  | u :: l :: r => by
      rw [markWords]
      split
      · next hin =>
          obtain ⟨marked, heq, hmarked⟩ := exists_markWords true u (l :: r)
          have hlower : a.isLower = true := (Bool.and_eq_true _ _ ▸ hin).2
          refine ⟨u :: marked, by rw [heq], .keep (fun _ hnot => ?_) hmarked⟩
          rw [hlower] at hnot
          cases hnot
      · split
        · next hmark =>
            obtain ⟨marked, heq, hmarked⟩ := exists_markWords true l r
            obtain ⟨⟨hbreak, hu⟩, hl⟩ : (a ≠ '\n' ∧ u.isUpper = true) ∧ l.isLower = true := by
              simpa using hmark
            have hnone : l.isUpper = false := not_isUpper_of_isSmall (isSmall_of_isLower hl)
            -- The small letter behind the capital is kept for being no capital.
            refine ⟨'_' :: u :: l :: marked, by rw [heq], .mark hbreak hu hl ?_⟩
            refine .keep (fun _ _ hl' => ?_) hmarked
            rw [hnone] at hl'
            cases hl'
        · next hmark =>
            obtain ⟨marked, heq, hmarked⟩ := exists_markWords false u (l :: r)
            refine ⟨u :: marked, by rw [heq], .keep (fun hbreak _ hu => ?_) hmarked⟩
            simpa [hbreak, hu, startsSmall] using hmark

/-- What the first pass leaves in front of a text behind an underscore is a capital exactly when
that underscore is one too many. -/
theorem WordsMarked.startsCapital_eq {s marked : List Char} (h : WordsMarked '_' s marked) :
    startsCapital marked = isSpareMark '_' s := by
  cases h with
  | nil => rfl
  | @keep _ c s marked hkeep _ =>
      show c.isUpper = (true && c.isUpper && !startsSmall s)
      cases hc : c.isUpper with
      | false => rfl
      | true => rw [hkeep (by decide) (by decide) hc]; rfl
  | @mark _ u s marked _ hu hs _ =>
      show false = (true && u.isUpper && !startsSmall s)
      rw [hs, Bool.not_true, Bool.and_false]

/-- A character that the first pass leaves without an underscore is finished by the rule. -/
theorem finished_keep {before c : Char} {s marked : List Char}
    (hkeep : before ≠ '\n' → before.isLower = false → c.isUpper = true → startsSmall s = false)
    (hrest : WordsMarked c s marked) :
    (if before == '_' && c == '_' && startsCapital marked then []
      else if isSmall before && c.isUpper then ['_', c]
      else [c]) = writtenAt (some before) c s := by
  unfold writtenAt
  simp only [Option.any_some]
  cases hc : c.isUpper with
  | false =>
      have hspare : (before == '_' && c == '_' && startsCapital marked) =
          (c == '_' && isSpareMark before s) := by
        by_cases hmarks : before = '_' ∧ c = '_'
        · obtain ⟨rfl, rfl⟩ := hmarks
          rw [hrest.startsCapital_eq]
          rfl
        · cases s <;> grind [isSpareMark]
      simp only [hspare, Bool.and_false, Bool.false_and, Bool.false_eq_true, if_false]
  | true =>
      have hmark : (c == '_') = false := by
        rw [beq_eq_false_iff_ne]
        rintro rfl
        cases hc
      have hstarts : startsWord before s = isSmall before := by
        cases hsmall : isSmall before with
        | true =>
            have hne : before ≠ '_' ∧ before ≠ '\n' := by
              constructor <;> rintro rfl <;> cases hsmall
            simp [startsWord, hne, hsmall]
        | false =>
            have hlower : before.isLower = false := (Bool.or_eq_false_iff.1 hsmall).1
            by_cases hbreak : before = '\n'
            · simp [startsWord, hbreak]
            · simp [startsWord, hsmall, hkeep hbreak hlower hc]
      simp only [hmark, hstarts, Bool.and_false, Bool.false_and, Bool.and_true, Bool.true_and,
        Bool.false_eq_true, if_false]

/-- A capital that the first pass puts an underscore before is finished by the rule. -/
theorem finished_mark {before u : Char} {s : List Char} (marked : List Char)
    (hbreak : before ≠ '\n') (hu : u.isUpper = true) (hs : startsSmall s = true) :
    finished before ('_' :: u :: marked) = writtenAt (some before) u s ++ finished u marked := by
  have hmark : (u == '_') = false := by
    rw [beq_eq_false_iff_ne]
    rintro rfl
    cases hu
  have hcapital : startsCapital (u :: marked) = true := hu
  have hplain : ('_').isUpper = false := rfl
  have hsmall : isSmall '_' = false := rfl
  -- The underscore goes again exactly if one was there already.
  by_cases hbefore : before = '_'
  · simp [finished, writtenAt, startsWord, hbefore, hu, hmark, hcapital, hsmall]
  · simp [finished, writtenAt, startsWord, hbefore, hbreak, hu, hs, hmark, hplain, hsmall]

/-- The other two passes make up for what the first one may leave out. -/
theorem WordsMarked.finished_eq {before : Char} {s marked : List Char}
    (h : WordsMarked before s marked) : finished before marked = underscored (some before) s := by
  induction h with
  | nil => rfl
  | keep hkeep hrest ih => rw [finished, underscored, finished_keep hkeep hrest, ih]
  | mark hbreak hu hs _ ih => rw [finished_mark _ hbreak hu hs, underscored, ih]

/-! ## The passes together -/

/-- The three passes write at every place what the rule says. -/
theorem markCapitals_mergeMarks_markWords (s : List Char) :
    markCapitals (mergeMarks (markWords false s)) = underscored none s := by
  cases s with
  | nil => rfl
  | cons a s =>
      obtain ⟨marked, heq, hmarked⟩ := exists_markWords false a s
      rw [heq, markCapitals_mergeMarks_cons, hmarked.finished_eq, underscored, writtenAt]
      simp

/-- The snake case of an ASCII name is written place by place: each character in lower case, with an
underscore before a capital that starts a word, and without the underscores that are one too
many. -/
theorem snake_eq_of_ascii {name : String} (h : ∀ c ∈ name.toList, c.toNat < 128) :
    snake name = String.ofList ((underscored none name.toList).map Char.toLower) := by
  have hascii : ∀ c ∈ underscored none name.toList, c.toNat < 128 := by
    intro c hc
    rcases mem_underscored hc with rfl | hc
    · decide
    · exact h c hc
  rw [snake, snakeLetters, markCapitals_mergeMarks_markWords, Text.lower_of_ascii hascii]

/-- Of two underscores the second one goes before "B", but not before "De", and a line break keeps
the underscore away from "I". -/
theorem snake_eq_of_doubled_marks :
    (∀ c ∈ "A__BC__DeF2Gh\nIJk".toList, c.toNat < 128) ∧
      snake "A__BC__DeF2Gh\nIJk" = "a_bc__de_f2_gh\ni_jk" := by
  have hascii : ∀ c ∈ "A__BC__DeF2Gh\nIJk".toList, c.toNat < 128 := by simp
  exact ⟨hascii, (snake_eq_of_ascii hascii).trans (by decide)⟩

end ModelGraph.Name
