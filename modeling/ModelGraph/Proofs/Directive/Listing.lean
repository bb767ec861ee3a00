import Mathlib.Data.List.Basic
import ModelGraph.Proofs.Directive.Extract
import ModelGraph.Proofs.Text.Classes

/-!
# Listing statements and reading them back

`listing` writes statements the way a directive lists them. `elements_listing` says that a listing
is cut exactly at the commas that it puts between statements, and `extract_listing` that a
directive gives back what was listed, with single quotes in place of double ones.
-/

namespace ModelGraph

namespace Marker

/-- A statement in double quotes. -/
def enclosed (s : List Char) : List Char :=
  quoteMark :: (s ++ [quoteMark])

/-- The statements that can be listed: nonempty, over the payload alphabet, and with no comma of
their own that separates, the closing quote included. -/
structure Listable (s : List Char) : Prop where
  ne_nil : s ≠ []
  chars : ∀ c ∈ s, isPayload c = true
  keeps_together : ∀ front spaces back,
    s ++ [quoteMark] ≠ front ++ ',' :: (List.replicate spaces ' ' ++ quoteMark :: back)

/-- Statements as a directive lists them: the first one, then each further one after a comma and a
number of spaces. -/
def listing (first : List Char) : List (Nat × List Char) → List Char
  | [] => enclosed first
  | (spaces, next) :: more =>
    enclosed first ++ ',' :: (List.replicate spaces ' ' ++ listing next more)

/-! ## The alphabet of payloads -/

/-- The space is the only blank of a payload. -/
theorem eq_space_of_isBlank {c : Char} (h : isPayload c = true) (hblank : Text.isBlank c = true) :
    c = ' ' := by
  rcases Bool.or_eq_true _ _ ▸ h with hword | hpunctuation
  · simp [Text.not_isBlank_of_isWord hword] at hblank
  · have hall : payloadPunctuation.all fun c => !Text.isBlank c || c == ' ' := by decide
    simpa [hblank] using List.all_eq_true.1 hall c (by simpa using hpunctuation)

/-- The double quote is no blank. -/
theorem not_isBlank_quoteMark : Text.isBlank quoteMark = false := by decide

/-- Whether no comma of a text separates, the closing quote included. -/
def keepsTogether : List Char → Bool
  | [] => true
  | c :: r => !(c = ',' && separates (r ++ [quoteMark])) && keepsTogether r

/-! ## Cutting a listing -/

/-- A blank makes no difference to what follows a comma. -/
theorem separates_space (rest : List Char) : separates (' ' :: rest) = separates rest := by
  simp [separates, show Text.isBlank ' ' = true by decide]

/-- A comma separates when only spaces stand between it and a double quote. -/
theorem separates_spaces_quote (spaces : Nat) (rest : List Char) :
    separates (List.replicate spaces ' ' ++ quoteMark :: rest) = true := by
  induction spaces with
  | zero => simp [separates, not_isBlank_quoteMark]
  | succ spaces ih => simpa [List.replicate_succ, separates_space] using ih

/-- A text that keeps together has no separating comma, however it is taken apart. -/
theorem append_quoteMark_ne {s : List Char} (hs : keepsTogether s = true) (front : List Char)
    (spaces : Nat) (back : List Char) :
    s ++ [quoteMark] ≠ front ++ ',' :: (List.replicate spaces ' ' ++ quoteMark :: back) := by
  induction s generalizing front with
  | nil => cases front <;> simp [quoteMark]
  | cons c s ih =>
      simp only [keepsTogether, Bool.and_eq_true] at hs
      cases front with
      | cons d front => exact fun h => ih hs.2 front (List.cons.inj h).2
      | nil =>
          intro h
          obtain ⟨rfl, hback⟩ := List.cons.inj h
          change s ++ [quoteMark] = List.replicate spaces ' ' ++ quoteMark :: back at hback
          simp [hback, separates_spaces_quote] at hs

/-- A comma does not separate when payload characters other than spaces stand between it and the
next double quote. -/
theorem separates_eq_false {back rest : List Char} (hback : ∀ c ∈ back, isPayload c = true)
    (h : ∀ spaces tail, back ++ [quoteMark] ≠ List.replicate spaces ' ' ++ quoteMark :: tail) :
    separates (back ++ quoteMark :: rest) = false := by
  -- along the blanks, each of which is a space and counts towards `spaces`
  induction back with
  | nil => exact absurd rfl (h 0 [])
  | cons c back ih =>
      by_cases hblank : Text.isBlank c = true
      · obtain rfl := eq_space_of_isBlank (hback c (by simp)) hblank
        rw [List.cons_append, separates_space]
        refine ih (fun d hd => hback d (by simp [hd])) ?_
        intro spaces tail heq
        exact h (spaces + 1) tail (by simp [List.replicate_succ, heq])
      · have hne : c ≠ quoteMark := by
          rintro rfl
          exact h 0 (back ++ [quoteMark]) rfl
        simp [separates, hblank, hne]

/-- No comma inside an enclosed statement separates, whatever follows the statement. -/
theorem Listable.not_separates {s front back : List Char} (hs : Listable s)
    (h : enclosed s = front ++ ',' :: back) (rest : List Char) :
    separates (back ++ rest) = false := by
  cases front with
  | nil => simp [enclosed, quoteMark] at h
  | cons c front =>
      have hinner : s ++ [quoteMark] = front ++ ',' :: back := (List.cons.inj h).2
      rcases List.eq_nil_or_concat back with rfl | ⟨inner, c, rfl⟩
      · -- the comma would be the closing quote itself
        have hlast := congrArg List.getLast? hinner
        simp [quoteMark] at hlast
      · obtain ⟨rfl, hc⟩ : s = front ++ ',' :: inner ∧ [quoteMark] = [c] :=
          List.append_inj' (by simpa using hinner) rfl
        obtain rfl : quoteMark = c := by simpa using hc
        rw [List.concat_eq_append, List.append_assoc]
        refine separates_eq_false (fun d hd => hs.chars d (by simp [hd])) ?_
        intro spaces tail heq
        exact hs.keeps_together front spaces tail (by simp [heq])

/-- A text without separating commas goes into the first element as a whole. -/
theorem elements_append {s rest first : List Char} {more : List (List Char)}
    (hs : ∀ front back, s = front ++ ',' :: back → separates (back ++ rest) = false)
    (hrest : elements false rest = first :: more) :
    elements false (s ++ rest) = (s ++ first) :: more := by
  induction s with
  | nil => exact hrest
  | cons c s ih =>
      have htail := ih fun front back h => hs (c :: front) back (by simp [h])
      have hcomma : ¬ (c = ',' ∧ separates (s ++ rest) = true) := by
        rintro ⟨rfl, hsep⟩
        simp [hs [] s rfl] at hsep
      simp [elements, hcomma, htail]

/-- Spaces after a separating comma are passed over. -/
theorem elements_spaces (spaces : Nat) (rest : List Char) :
    elements true (List.replicate spaces ' ' ++ quoteMark :: rest) =
      elements false (quoteMark :: rest) := by
  induction spaces with
  | zero => simp [elements, not_isBlank_quoteMark]
  | succ spaces ih =>
      simpa [List.replicate_succ, elements, show Text.isBlank ' ' = true by decide] using ih

/-- A listing begins with a double quote. -/
theorem exists_listing_eq_cons (first : List Char) (more : List (Nat × List Char)) :
    ∃ tail, listing first more = quoteMark :: tail := by
  cases more <;> exact ⟨_, rfl⟩

/-- A listing is cut exactly at the commas between its statements. -/
theorem elements_listing {first : List Char} {more : List (Nat × List Char)}
    (hfirst : Listable first) (hmore : ∀ item ∈ more, Listable item.2) :
    elements false (listing first more) = (first :: more.map Prod.snd).map enclosed := by
  induction more generalizing first with
  | nil =>
      have hwhole : elements false (enclosed first ++ []) = [enclosed first ++ []] :=
        elements_append (fun _ _ h => hfirst.not_separates h []) rfl
      simpa [listing] using hwhole
  | cons item more ih =>
      obtain ⟨spaces, next⟩ := item
      obtain ⟨tail, htail⟩ := exists_listing_eq_cons next more
      have hnext := ih (hmore (spaces, next) (by simp)) (fun item h => hmore item (by simp [h]))
      have hrest : elements false (',' :: (List.replicate spaces ' ' ++ listing next more)) =
          [] :: (next :: more.map Prod.snd).map enclosed := by
        rw [← hnext, htail, ← elements_spaces spaces tail]
        simp [elements, separates_spaces_quote]
      have hwhole := elements_append (fun _ _ h => hfirst.not_separates h _) hrest
      simpa [listing] using hwhole

/-! ## Reading the statements of a listing -/

/-- The double quotes around a text are no blanks. -/
theorem trim_enclosed (s : List Char) : Text.trim (enclosed s) = enclosed s := by
  simp [Text.trim, Text.dropRightWhile, enclosed, not_isBlank_quoteMark]

/-- Everything before the last double quote is taken. -/
theorem beforeLastQuote?_append {s : List Char} (hs : s ≠ []) :
    beforeLastQuote? (s ++ [quoteMark]) = some s := by
  obtain ⟨c, r, hr⟩ := List.exists_cons_of_ne_nil (List.reverse_ne_nil_iff.2 hs)
  have hreverse : (c :: r).reverse = s := by rw [← hr, List.reverse_reverse]
  simpa [beforeLastQuote?, hr] using hreverse

/-- The statement of an enclosed text is that text with single quotes. -/
theorem statement?_enclosed {s : List Char} (hs : Listable s) :
    statement? (enclosed s) = some (singleQuoted s) := by
  have hrun : (s ++ [quoteMark]).takeWhile isPayload = s ++ [quoteMark] := by
    rw [List.takeWhile_append_of_pos hs.chars]
    simp [show isPayload quoteMark = true by decide]
  have hquoted : quoted? (enclosed s) = some s := by
    simp [enclosed, quoted?, hrun, beforeLastQuote?_append hs.ne_nil]
  simp [statement?, trim_enclosed, hquoted]

/-- The statements of a listing are those that were listed. -/
theorem statements_listing {first : List Char} {more : List (Nat × List Char)}
    (hfirst : Listable first) (hmore : ∀ item ∈ more, Listable item.2) :
    statements (listing first more) = (first :: more.map Prod.snd).map singleQuoted := by
  have hall : ∀ s ∈ first :: more.map Prod.snd, statement? (enclosed s) = some (singleQuoted s) := by
    intro s hs
    rcases List.mem_cons.1 hs with rfl | hs
    · exact statement?_enclosed hfirst
    · obtain ⟨item, hitem, rfl⟩ := List.mem_map.1 hs
      exact statement?_enclosed (hmore item hitem)
  rw [statements, elements_listing hfirst hmore, List.filterMap_map]
  exact List.filterMap_eq_map_iff_forall_eq_some.2 hall

/-- The payload alphabet has everything that a listing puts around its statements. -/
theorem isPayload_of_mem_listing {first : List Char} {more : List (Nat × List Char)}
    (hfirst : Listable first) (hmore : ∀ item ∈ more, Listable item.2) :
    ∀ c ∈ listing first more, isPayload c = true := by
  have henclosed : ∀ {s : List Char}, Listable s → ∀ c ∈ enclosed s, isPayload c = true := by
    intro s hs c hc
    rcases List.mem_cons.1 hc with rfl | hc
    · decide
    · rcases List.mem_append.1 hc with hc | hc
      · exact hs.chars c hc
      · obtain rfl := List.mem_singleton.1 hc
        decide
  induction more generalizing first with
  | nil => exact henclosed hfirst
  | cons item more ih =>
      obtain ⟨spaces, next⟩ := item
      intro c hc
      simp only [listing, List.mem_append, List.mem_cons, List.mem_replicate] at hc
      rcases hc with hc | rfl | ⟨-, rfl⟩ | hc
      · exact henclosed hfirst c hc
      · decide
      · decide
      · exact ih (hmore (spaces, next) (by simp)) (fun item h => hmore item (by simp [h])) c hc

end Marker

open Marker

/-- A directive gives back what it lists. Whatever statements are listed, whatever spaces stand
between them, and whatever stands around the marker, the statements come in order with single
quotes in place of double ones, and the text around the marker is left. -/
theorem Directive.extract_listing {before after first : List Char} {more : List (Nat × List Char)}
    (hbefore : ¬ Marked before) (hfirst : Listable first)
    (hmore : ∀ item ∈ more, Listable item.2) (model : String) :
    extract (some (String.ofList (before ++ "@zod.import([".toList ++ listing first more ++
        "])".toList ++ after))) model =
      .ok (some
        { statements := (first :: more.map Prod.snd).map fun s => String.ofList (singleQuoted s)
          cleared := String.ofList (before ++ after) }) := by
  let m : Marker := ⟨importTag.toList, listing first more⟩
  obtain ⟨tail, htail⟩ := exists_listing_eq_cons first more
  have hm : m.WellFormed :=
    { tag_ne_nil := by simp [m, importTag]
      tag_word := List.all_eq_true.1 (by decide : importTag.toList.all Text.isWord = true)
      payload_ne_nil := by simp [m, htail]
      payload_chars := isPayload_of_mem_listing hfirst hmore }
  have htext : before ++ "@zod.import([".toList ++ listing first more ++ "])".toList ++ after =
      before ++ m.text ++ after := by
    simp [m, text, opening, middle, closing, importTag]
  have hstands := standsFirst_append hbefore hm after
  rw [htext, extract_of_import (by simpa using hstands) rfl]
  simp [m, statements_listing hfirst hmore]

/-- Commas and quotes inside a statement, several spaces after a separating comma, and the front
of a marker before the directive. -/
theorem Directive.extract_listing_of_two :
    extract (some "see @zod.im @zod.import([\"import \x7b a, b \x7d from \"ab\"\",   \"c\"]) end")
      "User" =
    .ok (some { statements := ["import \x7b a, b \x7d from 'ab'", "c"], cleared := "see @zod.im  end" }) := by
  have hbefore : ¬ Marked "see @zod.im ".toList := find?_eq_none_iff.1 (by decide +kernel)
  have hfirst : Listable "import \x7b a, b \x7d from \"ab\"".toList :=
    ⟨by decide, List.all_eq_true.1 (by decide +kernel), append_quoteMark_ne (by decide +kernel)⟩
  have hnext : Listable "c".toList :=
    ⟨by decide, List.all_eq_true.1 (by decide +kernel), append_quoteMark_ne (by decide +kernel)⟩
  exact @extract_listing "see @zod.im ".toList " end".toList _ [(3, "c".toList)] hbefore hfirst
    (by simpa using hnext) "User"

end ModelGraph
