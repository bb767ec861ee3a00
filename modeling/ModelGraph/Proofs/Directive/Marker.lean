import Mathlib.Data.List.TakeWhile
import Mathlib.Tactic.ByContra
import ModelGraph.Directive.Marker
import ModelGraph.Proofs.Text.Ends

/-!
# Markers standing in a text

`Stands s before m rest` says that the well-formed marker `m` stands in the text `s` between
`before` and `rest`, whatever the reader does. `read?_eq_some_iff` and `find?_eq_some_iff` compare
the readers with it: the search gives exactly the marker with the shortest text before it.
`Stands.same_or_behind` says that two markers of one text never overlap.
-/

namespace ModelGraph.Marker

/-- The tag and the payload are nonempty texts over their alphabets. -/
structure WellFormed (m : Marker) : Prop where
  tag_ne_nil : m.tag ≠ []
  tag_word : ∀ c ∈ m.tag, Text.isWord c = true
  payload_ne_nil : m.payload ≠ []
  payload_chars : ∀ c ∈ m.payload, isPayload c = true

/-- The marker `m` stands in `s` between `before` and `rest`. -/
structure Stands (s before : List Char) (m : Marker) (rest : List Char) : Prop where
  wellFormed : m.WellFormed
  text_eq : s = before ++ m.text ++ rest

/-- Some marker stands in the text. -/
def Marked (s : List Char) : Prop :=
  ∃ before m rest, Stands s before m rest

/-- The marker `m` stands in `s`, and no marker stands in `s` with less text before it. -/
structure StandsFirst (s before : List Char) (m : Marker) (rest : List Char) : Prop
    extends Stands s before m rest where
  least : ∀ before' m' rest', Stands s before' m' rest' → before.length ≤ before'.length

/-! ## Runs -/

/-- Word characters may stand in a payload. -/
theorem isPayload_of_isWord {c : Char} (h : Text.isWord c = true) : isPayload c = true := by
  simp [isPayload, h]

/-- Two runs of a class that are followed by characters outside it end at the same place. -/
theorem run_unique {p : Char → Bool} {xs ys s t : List Char} {c d : Char}
    (hxs : ∀ a ∈ xs, p a = true) (hys : ∀ a ∈ ys, p a = true)
    (hc : p c = false) (hd : p d = false) (h : xs ++ c :: s = ys ++ d :: t) :
    xs = ys ∧ c = d ∧ s = t := by
  obtain ⟨hruns, hrest⟩ := Text.run_append_inj hxs hys (by simpa using hc) (by simpa using hd) h
  exact ⟨hruns, List.cons.inj hrest⟩

/-- A nonempty run that is followed by a character outside its class is read. -/
theorem run?_append {p : Char → Bool} {run rest : List Char} {c : Char} (hne : run ≠ [])
    (hrun : ∀ a ∈ run, p a = true) (hc : p c = false) :
    run? p (run ++ c :: rest) = some (run, c :: rest) := by
  have htake : (run ++ c :: rest).takeWhile p = run := by
    rw [List.takeWhile_append_of_pos hrun]
    simp [hc]
  have hdrop : (run ++ c :: rest).dropWhile p = c :: rest := by
    rw [List.dropWhile_append_of_pos hrun]
    simp [hc]
  unfold run?
  rw [htake, hdrop]
  split
  · exact absurd rfl hne
  · rfl

/-- A run that was read is nonempty and keeps to its class. -/
theorem run?_chars {p : Char → Bool} {s run rest : List Char}
    (h : run? p s = some (run, rest)) : run ≠ [] ∧ ∀ a ∈ run, p a = true := by
  unfold run? at h
  split at h
  · cases h
  · next hne =>
      cases h
      exact ⟨hne, fun a ha => List.mem_takeWhile_imp ha⟩

/-! ## The marker at the front of a text -/

/-- A well-formed marker is read back, whatever follows it. -/
theorem read?_append {m : Marker} (hm : m.WellFormed) (rest : List Char) :
    read? (m.text ++ rest) = some (m, rest) := by
  have hopening : Text.after? opening (m.text ++ rest) =
      some (m.tag ++ (middle ++ (m.payload ++ (closing ++ rest)))) :=
    Text.after?_eq_some.2 (by simp [text])
  have htag : run? Text.isWord (m.tag ++ (middle ++ (m.payload ++ (closing ++ rest)))) =
      some (m.tag, middle ++ (m.payload ++ (closing ++ rest))) :=
    run?_append hm.tag_ne_nil hm.tag_word (by decide)
  have hmiddle : Text.after? middle (middle ++ (m.payload ++ (closing ++ rest))) =
      some (m.payload ++ (closing ++ rest)) := Text.after?_eq_some.2 rfl
  have hpayload : run? isPayload (m.payload ++ (closing ++ rest)) =
      some (m.payload, closing ++ rest) :=
    run?_append hm.payload_ne_nil hm.payload_chars (by decide)
  have hclosing : Text.after? closing (closing ++ rest) = some rest := Text.after?_eq_some.2 rfl
  simp [read?, hopening, htag, hmiddle, hpayload, hclosing]

/-- A marker that was read is well formed. -/
theorem read?_wellFormed {s rest : List Char} {m : Marker} (h : read? s = some (m, rest)) :
    m.WellFormed := by
  simp only [read?, Option.pure_def, Option.bind_eq_bind, Option.bind_eq_some_iff] at h
  obtain ⟨_, _, ⟨tag, _⟩, htag, _, _, ⟨payload, _⟩, hpayload, _, _, heq⟩ := h
  cases heq
  obtain ⟨htagNe, htagWord⟩ := run?_chars htag
  obtain ⟨hpayloadNe, hpayloadChars⟩ := run?_chars hpayload
  exact ⟨htagNe, htagWord, hpayloadNe, hpayloadChars⟩

/-- What is read at the front of a text is exactly the well-formed marker that it begins with. -/
theorem read?_eq_some_iff {s rest : List Char} {m : Marker} :
    read? s = some (m, rest) ↔ m.WellFormed ∧ s = m.text ++ rest := by
  constructor
  · intro h
    exact ⟨read?_wellFormed h, read?_eq_some h⟩
  · rintro ⟨hm, rfl⟩
    exact read?_append hm rest

/-! ## The first marker of a text -/

namespace Stands

variable {s before before' rest rest' : List Char} {m m' : Marker}

/-- A marker in the tail of a text stands in the text. -/
theorem cons (h : Stands s before m rest) (c : Char) : Stands (c :: s) (c :: before) m rest :=
  ⟨h.wellFormed, by simp [h.text_eq]⟩

/-- A marker with no text before it is the one that is read. -/
theorem read? (h : Stands s [] m rest) : Marker.read? s = some (m, rest) :=
  read?_eq_some_iff.2 ⟨h.wellFormed, by simpa using h.text_eq⟩

/-- A marker behind the first character of a text stands in its tail. -/
theorem tail {c d : Char} (h : Stands (c :: s) (d :: before) m rest) :
    Stands s before m rest :=
  ⟨h.wellFormed, by simpa using (List.cons.inj h.text_eq).2⟩

/-- Two markers of a text cut it in two ways. -/
theorem append_eq_append (h : Stands s before m rest) (h' : Stands s before' m' rest') :
    before ++ (m.text ++ rest) = before' ++ (m'.text ++ rest') := by
  rw [← List.append_assoc, ← List.append_assoc, ← h.text_eq, ← h'.text_eq]

/-- At one place of a text stands one marker at most. -/
theorem unique (h : Stands s before m rest) (h' : Stands s before' m' rest')
    (hlength : before.length = before'.length) : before = before' ∧ m = m' ∧ rest = rest' := by
  obtain ⟨hbefore, hfront⟩ := List.append_inj (h.append_eq_append h') hlength
  have hread := read?_append h.wellFormed rest
  rw [hfront, read?_append h'.wellFormed rest'] at hread
  simp_all

end Stands

/-- The marker that the search gives stands first in the text. -/
theorem find?_standsFirst {s before rest : List Char} {m : Marker}
    (h : find? s = some (before, m, rest)) : StandsFirst s before m rest := by
  induction s generalizing before with
  | nil => cases h
  | cons c r ih =>
      unfold find? at h
      split at h
      · next hread =>
          cases h
          obtain ⟨hm, htext⟩ := read?_eq_some_iff.1 hread
          exact ⟨⟨hm, by simpa using htext⟩, fun _ _ _ _ => Nat.zero_le _⟩
      · next hread =>
          obtain ⟨⟨before, m, rest⟩, hfind, heq⟩ := Option.map_eq_some_iff.1 h
          cases heq
          have hfirst := ih hfind
          refine ⟨hfirst.toStands.cons c, ?_⟩
          intro before' m' rest' h'
          cases before' with
          | nil => simp [h'.read?] at hread
          | cons d before' => simpa using hfirst.least _ _ _ h'.tail

/-- The search fails only on texts without a marker. -/
theorem not_stands_of_find? {s before rest : List Char} {m : Marker}
    (h : find? s = none) : ¬ Stands s before m rest := by
  intro hstands
  induction s generalizing before with
  | nil => simpa [text, opening] using hstands.text_eq
  | cons c r ih =>
      unfold find? at h
      split at h
      · cases h
      · next hread =>
          cases before with
          | nil => simp [hstands.read?] at hread
          | cons d before => exact ih (by simpa using h) hstands.tail

/-- The search fails exactly on the texts without a marker. -/
theorem find?_eq_none_iff {s : List Char} : find? s = none ↔ ¬ Marked s := by
  constructor
  · rintro h ⟨before, m, rest, hstands⟩
    exact not_stands_of_find? h hstands
  · intro h
    cases hfind : find? s with
    | none => rfl
    | some found =>
        obtain ⟨before, m, rest⟩ := found
        exact absurd ⟨before, m, rest, (find?_standsFirst hfind).toStands⟩ h

/-- One marker at most stands first in a text. -/
theorem StandsFirst.unique {s before before' rest rest' : List Char} {m m' : Marker}
    (h : StandsFirst s before m rest) (h' : StandsFirst s before' m' rest') :
    before = before' ∧ m = m' ∧ rest = rest' :=
  h.toStands.unique h'.toStands
    (Nat.le_antisymm (h.least _ _ _ h'.toStands) (h'.least _ _ _ h.toStands))

/-- The search gives exactly the marker that stands first. -/
theorem find?_eq_some_iff {s before rest : List Char} {m : Marker} :
    find? s = some (before, m, rest) ↔ StandsFirst s before m rest := by
  constructor
  · exact find?_standsFirst
  · intro h
    cases hfind : find? s with
    | none => exact absurd h.toStands (not_stands_of_find? hfind)
    | some found =>
        obtain ⟨before', m', rest'⟩ := found
        obtain ⟨rfl, rfl, rfl⟩ := h.unique (find?_standsFirst hfind)
        rfl

/-- In every text with a marker one stands first. -/
theorem Marked.exists_first {s : List Char} (h : Marked s) :
    ∃ before m rest, StandsFirst s before m rest := by
  cases hfind : find? s with
  | none => exact absurd h (find?_eq_none_iff.1 hfind)
  | some found =>
      obtain ⟨before, m, rest⟩ := found
      exact ⟨before, m, rest, find?_standsFirst hfind⟩

/-! ## Two markers of a text -/

/-- What ends with the first `a` of a text reaches over all that has no `a`. -/
theorem exists_append_of_notMem {α : Type} {a : α} {xs ys us ts : List α} (ha : a ∉ xs)
    (h : xs ++ ys = us ++ a :: ts) : ∃ vs, us = xs ++ vs ∧ ys = vs ++ a :: ts := by
  rcases List.append_eq_append_iff.1 h with ⟨vs, hus, hys⟩ | ⟨vs, hxs, hts⟩
  · exact ⟨vs, hus, hys⟩
  · cases vs with
    | nil => exact ⟨[], by simp [hxs], by simpa using hts.symm⟩
    | cons v vs =>
        obtain ⟨rfl, -⟩ := List.cons.inj hts
        simp [hxs] at ha

/-- Payload characters lead from the front of a marker to its middle, never to a closing. -/
theorem text_append_ne_closing {m : Marker} (hm : m.WellFormed) {run rest rest' : List Char}
    (hrun : ∀ c ∈ run, isPayload c = true) :
    m.text ++ rest ≠ run ++ (closing ++ rest') := by
  intro h
  have hfront : ∀ c ∈ opening ++ m.tag, isPayload c = true := by
    intro c hc
    rcases List.mem_append.1 hc with hc | hc
    · exact List.all_eq_true.1 (by decide : opening.all isPayload = true) c hc
    · exact isPayload_of_isWord (hm.tag_word c hc)
  have hsplit : (opening ++ m.tag) ++ '(' :: ('[' :: (m.payload ++ (closing ++ rest))) =
      run ++ ']' :: (')' :: rest') := by
    simpa [text, middle, closing] using h
  have hends := run_unique hfront hrun (by decide) (by decide) hsplit
  exact absurd hends.2.1 (by decide)

/-- A marker that begins behind the front of another one begins behind its end. An "@" inside a
marker belongs to the payload, where no tag comes to its middle. -/
theorem text_length_le {m m' : Marker} (hm : m.WellFormed) (hm' : m'.WellFormed)
    {skipped rest rest' : List Char} (hskipped : skipped ≠ [])
    (h : m.text ++ rest = skipped ++ (m'.text ++ rest')) : m.text.length ≤ skipped.length := by
  obtain ⟨c, skipped, rfl⟩ := List.exists_cons_of_ne_nil hskipped
  let head := "zod.".toList ++ m.tag ++ middle
  have htext : m.text = '@' :: (head ++ (m.payload ++ closing)) := by
    simp [head, text, opening]
  have htext' : m'.text ++ rest' = '@' :: (m'.text ++ rest').tail := by
    simp [text, opening]
  have hhead : '@' ∉ head := by
    have htag : '@' ∉ m.tag := fun hc => absurd (hm.tag_word _ hc) (by decide)
    simp [head, middle, htag]
  have hbehind : head ++ (m.payload ++ (closing ++ rest)) =
      skipped ++ '@' :: (m'.text ++ rest').tail := by
    rw [htext, htext'] at h
    simpa using (List.cons.inj h).2
  -- the second marker begins with an "@", so not before the payload of the first one
  obtain ⟨skipped, rfl, hpayload⟩ := exists_append_of_notMem hhead hbehind
  rcases List.append_eq_append_iff.1 hpayload with ⟨past, rfl, hclosing⟩ | ⟨left, heq, hleft⟩
  · cases past with
    | nil => simp [closing] at hclosing
    | cons d past =>
        cases past with
        | nil => simp [closing] at hclosing
        | cons e past => simp [htext, closing]
  · -- inside the payload it would meet the closing of the first marker before its own middle
    have hchars : ∀ c ∈ left, isPayload c = true := fun c hc =>
      hm.payload_chars c (by simp [heq, hc])
    rw [← htext'] at hleft
    exact absurd hleft (text_append_ne_closing hm' hchars)

/-- Of two markers of a text that do not stand at the same place, the second stands after the end
of the first. -/
theorem Stands.same_or_behind {s before before' rest rest' : List Char} {m m' : Marker}
    (h : Stands s before m rest) (h' : Stands s before' m' rest')
    (hlength : before.length ≤ before'.length) :
    before' = before ∨
      ∃ gap, before' = before ++ m.text ++ gap ∧ rest = gap ++ m'.text ++ rest' := by
  have htext := h.append_eq_append h'
  obtain ⟨past, rfl⟩ : before <+: before' :=
    List.prefix_of_prefix_length_le (htext ▸ List.prefix_append before (m.text ++ rest))
      (List.prefix_append before' _) hlength
  have hpast : m.text ++ rest = past ++ (m'.text ++ rest') := by simpa using htext
  by_cases hempty : past = []
  · exact Or.inl (by simp [hempty])
  · obtain ⟨gap, rfl⟩ : m.text <+: past :=
      List.prefix_of_prefix_length_le (hpast ▸ List.prefix_append m.text rest)
        (List.prefix_append past _) (text_length_le h.wellFormed h'.wellFormed hempty hpast)
    exact Or.inr ⟨gap, by simp, by simpa using hpast⟩

/-- A marker after a text without one stands first: none can begin in that text and reach into the
marker. -/
theorem standsFirst_append {before : List Char} {m : Marker} (hbefore : ¬ Marked before)
    (hm : m.WellFormed) (rest : List Char) :
    StandsFirst (before ++ m.text ++ rest) before m rest := by
  have hstands : Stands (before ++ m.text ++ rest) before m rest := ⟨hm, rfl⟩
  refine ⟨hstands, ?_⟩
  intro before' m' rest' h'
  by_contra hshorter
  rcases h'.same_or_behind hstands (by omega) with rfl | ⟨gap, hgap, -⟩
  · exact hshorter (Nat.le_refl _)
  · exact hbefore ⟨before', m', gap, h'.wellFormed, hgap⟩

end ModelGraph.Marker
