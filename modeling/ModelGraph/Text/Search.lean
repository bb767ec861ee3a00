/-!
# First occurrences

A text is cut at the first place where a part occurs. `cut?_eq_some` says that the cut loses
nothing, and `occursIn_iff` that a part occurs exactly when it is an infix of the text.
-/

namespace ModelGraph.Text

/-- The rest of `s` after `lead`, when `s` begins with `lead`. -/
def after? (lead s : List Char) : Option (List Char) :=
  if lead.isPrefixOf s then some (s.drop lead.length) else none

/-- The texts before and after the first occurrence of `part` in `s`. -/
def cut? (part : List Char) : List Char → Option (List Char × List Char)
  | [] => if part.isEmpty then some ([], []) else none
  | c :: r =>
    match after? part (c :: r) with
    | some rest => some ([], rest)
    | none => (cut? part r).map fun (before, rest) => (c :: before, rest)

/-- Whether `part` occurs in `s`. -/
def occursIn (part s : List Char) : Bool :=
  (cut? part s).isSome

/-- The text `s` without the first occurrence of `part`. -/
def removeFirst (part s : List Char) : List Char :=
  match cut? part s with
  | some (before, rest) => before ++ rest
  | none => s

/-- Whether the text `part` occurs in the text `s`. -/
def occurs (part s : String) : Bool :=
  occursIn part.toList s.toList

/-- Whether one of `parts` occurs in `s`. -/
def mentionsAny (parts : List String) (s : String) : Bool :=
  parts.any fun part => occurs part s

/-- The text `s` without the first occurrence of the text `part`. -/
def erase (part s : String) : String :=
  String.ofList (removeFirst part.toList s.toList)

/-- Beginning with `lead` means being `lead` followed by the rest. -/
theorem after?_eq_some {lead s rest : List Char} :
    after? lead s = some rest ↔ s = lead ++ rest := by
  unfold after?
  split
  · next h =>
    obtain ⟨t, rfl⟩ := List.isPrefixOf_iff_prefix.1 h
    simp
  · next h =>
    simp only [reduceCtorEq, false_iff]
    rintro rfl
    exact h (List.isPrefixOf_iff_prefix.2 (List.prefix_append _ _))

/-- A cut loses nothing. -/
theorem cut?_eq_some {part s before rest : List Char} (h : cut? part s = some (before, rest)) :
    s = before ++ part ++ rest := by
  induction s generalizing before with
  | nil =>
    simp only [cut?, List.isEmpty_iff] at h
    split at h <;> simp_all
  | cons c r ih =>
    unfold cut? at h
    split at h
    · next t ht =>
      cases h
      simpa using after?_eq_some.1 ht
    · obtain ⟨⟨b, t⟩, hb, heq⟩ := Option.map_eq_some_iff.1 h
      cases heq
      simp [ih hb]

/-- A part that stands somewhere in a text is found. -/
theorem cut?_isSome_of_append (part before rest : List Char) :
    (cut? part (before ++ part ++ rest)).isSome = true := by
  induction before with
  | nil =>
    cases hs : part ++ rest with
    | nil => simp_all [cut?]
    | cons c r => simp [cut?, hs, after?_eq_some.2 hs.symm]
  | cons c r ih =>
    simp only [List.cons_append, cut?]
    split
    · rfl
    · simpa using ih

/-- A cut is made at the first occurrence. -/
theorem cut?_length_le {part s before rest : List Char} (h : cut? part s = some (before, rest))
    {before' rest' : List Char} (htext : s = before' ++ part ++ rest') :
    before.length ≤ before'.length := by
  induction s generalizing before before' with
  | nil =>
    have hempty : before = [] ∧ part = [] ∧ rest = [] := by simpa using (cut?_eq_some h).symm
    simp [hempty.1]
  | cons c r ih =>
    unfold cut? at h
    split at h
    · cases h
      exact Nat.zero_le _
    · next hafter =>
      obtain ⟨⟨before, rest⟩, hcut, heq⟩ := Option.map_eq_some_iff.1 h
      cases heq
      cases before' with
      | nil =>
        have hfront : after? part (c :: r) = some rest' := after?_eq_some.2 (by simpa using htext)
        simp [hfront] at hafter
      | cons d before' => simpa using ih hcut (List.cons.inj htext).2

/-- Removing a part joins what stands before and after its first occurrence. -/
theorem removeFirst_eq_append {part s before rest : List Char} (h : s = before ++ part ++ rest)
    (hleast : ∀ before' rest', s = before' ++ part ++ rest' → before.length ≤ before'.length) :
    removeFirst part s = before ++ rest := by
  obtain ⟨⟨b, t⟩, hcut⟩ := Option.isSome_iff_exists.1 (h ▸ cut?_isSome_of_append part before rest)
  have htext : s = b ++ part ++ t := cut?_eq_some hcut
  have hlength : before.length = b.length :=
    Nat.le_antisymm (hleast b t htext) (cut?_length_le hcut h)
  have hsame : before ++ (part ++ rest) = b ++ (part ++ t) := by simpa using h.symm.trans htext
  obtain ⟨rfl, hrest⟩ := List.append_inj hsame hlength
  simp [removeFirst, hcut, List.append_cancel_left hrest]

/-- Removing a part that stands somewhere in a text shortens the text by the part. -/
theorem length_removeFirst {part s before rest : List Char} (h : s = before ++ part ++ rest) :
    (removeFirst part s).length + part.length = s.length := by
  obtain ⟨⟨b, t⟩, hcut⟩ := Option.isSome_iff_exists.1 (h ▸ cut?_isSome_of_append part before rest)
  have hremoved : removeFirst part s = b ++ t := by simp [removeFirst, hcut]
  rw [hremoved, cut?_eq_some hcut]
  simp only [List.length_append]
  omega

/-- A part occurs in a text exactly when it is an infix of it. -/
theorem occursIn_iff {part s : List Char} : occursIn part s = true ↔ part <:+: s := by
  constructor
  · intro h
    obtain ⟨⟨before, rest⟩, hcut⟩ := Option.isSome_iff_exists.1 h
    exact ⟨before, rest, (cut?_eq_some hcut).symm⟩
  · rintro ⟨before, rest, rfl⟩
    exact cut?_isSome_of_append part before rest

end ModelGraph.Text
