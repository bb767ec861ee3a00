import Mathlib.Data.List.Basic

/-!
# Reading a joined list back

Things that are written one behind another with a separator between them can be read back when each
of them can. `Readable` says that a text can be told from what is behind it, and `Readable.joined`
carries this from the items of a list to the joined list, on the conditions of `Separates`. The
joined list can itself be an item of another list.
-/

namespace ModelGraph.Text

/-- A separator stands in front of every item but the first one. -/
theorem intercalate_cons_eq_flatMap {α : Type} (sep first : List α) (words : List (List α)) :
    sep.intercalate (first :: words) = first ++ words.flatMap (sep ++ ·) := by
  induction words generalizing first with
  | nil => simp
  | cons word words ih =>
      rw [List.intercalate_cons_cons, ih, List.flatMap_cons, List.append_assoc, List.append_assoc]

variable {α : Type} {render : α → String} {p : α → Prop} {sep : String}
  {ends listEnds : List Char → Prop}

/-- Before a rest that satisfies `ends`, the text of a thing that satisfies `p` can be read: it
tells which thing it is and where the rest begins. -/
def Readable (render : α → String) (p : α → Prop) (ends : List Char → Prop) : Prop :=
  ∀ x y s t, p x → p y → ends s → ends t →
    (render x).toList ++ s = (render y).toList ++ t → x = y ∧ s = t

/-- When nothing stands behind them, things with the same text are the same. -/
theorem Readable.eq_of_eq (hread : Readable render p ends) (hend : ends []) {x y : α} (hx : p x)
    (hy : p y) (h : render x = render y) : x = y :=
  (hread x y [] [] hx hy hend hend (by rw [h])).1

/-- What stands behind the items of a list: the separator, or the end of the list. The end of the
list shows neither another separator nor another item. -/
structure Separates (render : α → String) (p : α → Prop) (sep : String)
    (ends listEnds : List Char → Prop) : Prop where
  ends_of_listEnds : ∀ s, listEnds s → ends s
  ends_sep : ∀ s, ends (sep.toList ++ s)
  not_listEnds_sep : ∀ s, ¬ listEnds (sep.toList ++ s)
  not_listEnds_item : ∀ x s, p x → ¬ listEnds ((render x).toList ++ s)

/-- The text of a list from the second item on. -/
def joinedTail (render : α → String) (sep : String) (xs : List α) : List Char :=
  xs.flatMap fun x => sep.toList ++ (render x).toList

theorem joinedTail_cons (x : α) (xs : List α) :
    joinedTail render sep (x :: xs) =
      sep.toList ++ ((render x).toList ++ joinedTail render sep xs) := by
  rw [joinedTail, List.flatMap_cons, List.append_assoc, joinedTail]

/-- A joined list is its first item and the text from the second item on. -/
theorem toList_joined_cons (x : α) (xs : List α) :
    (sep.intercalate ((x :: xs).map render)).toList =
      (render x).toList ++ joinedTail render sep xs := by
  rw [String.toList_intercalate, List.map_cons, List.map_cons, intercalate_cons_eq_flatMap,
    List.flatMap_map, List.flatMap_map, joinedTail]

namespace Separates

/-- Behind an item stands something that ends it. -/
theorem ends_joinedTail (hsep : Separates render p sep ends listEnds) {s : List Char}
    (hs : listEnds s) (xs : List α) : ends (joinedTail render sep xs ++ s) := by
  cases xs with
  | nil => exact hsep.ends_of_listEnds s hs
  | cons x xs =>
      rw [joinedTail_cons, List.append_assoc]
      exact hsep.ends_sep _

/-- No list ends where another one has a further item. -/
theorem ne_joinedTail_cons (hsep : Separates render p sep ends listEnds) {s t : List Char}
    (hs : listEnds s) {x : α} {xs : List α} : s ≠ joinedTail render sep (x :: xs) ++ t := by
  intro h
  rw [joinedTail_cons, List.append_assoc] at h
  rw [h] at hs
  exact hsep.not_listEnds_sep _ hs

/-- From the second item on, the items can be read one after another. -/
theorem joinedTail_unique (hsep : Separates render p sep ends listEnds)
    (hread : Readable render p ends) {s t : List Char} (hs : listEnds s) (ht : listEnds t)
    {xs ys : List α} (hxs : ∀ x ∈ xs, p x) (hys : ∀ y ∈ ys, p y)
    (h : joinedTail render sep xs ++ s = joinedTail render sep ys ++ t) : xs = ys ∧ s = t := by
  induction xs generalizing ys with
  | nil =>
      cases ys with
      | nil => exact ⟨rfl, h⟩
      | cons y ys => exact absurd h (hsep.ne_joinedTail_cons hs)
  | cons x xs ih =>
      cases ys with
      | nil => exact absurd h.symm (hsep.ne_joinedTail_cons ht)
      | cons y ys =>
          obtain ⟨hx, hxs⟩ := List.forall_mem_cons.1 hxs
          obtain ⟨hy, hys⟩ := List.forall_mem_cons.1 hys
          simp only [joinedTail_cons, List.append_assoc] at h
          obtain ⟨hfirst, hrest⟩ := hread x y _ _ hx hy (hsep.ends_joinedTail hs xs)
            (hsep.ends_joinedTail ht ys) (List.append_cancel_left h)
          obtain ⟨htail, hend⟩ := ih hxs hys hrest
          exact ⟨by rw [hfirst, htail], hend⟩

/-- No list ends where another one has its first item. -/
theorem ne_joined_cons (hsep : Separates render p sep ends listEnds) {s t : List Char}
    (hs : listEnds s) {x : α} {xs : List α} (hx : p x) :
    s ≠ (sep.intercalate ((x :: xs).map render)).toList ++ t := by
  intro h
  rw [toList_joined_cons, List.append_assoc] at h
  rw [h] at hs
  exact hsep.not_listEnds_item x _ hx hs

end Separates

/-- When the items of a list can be read, the joined list can. -/
theorem Readable.joined (hread : Readable render p ends)
    (hsep : Separates render p sep ends listEnds) :
    Readable (fun xs : List α => sep.intercalate (xs.map render)) (fun xs => ∀ x ∈ xs, p x)
      listEnds := by
  intro xs ys s t hxs hys hs ht h
  cases xs with
  | nil =>
      cases ys with
      | nil => exact ⟨rfl, List.append_cancel_left h⟩
      | cons y ys => exact absurd h (hsep.ne_joined_cons hs (hys y (by simp)))
  | cons x xs =>
      cases ys with
      | nil => exact absurd h.symm (hsep.ne_joined_cons ht (hxs x (by simp)))
      | cons y ys =>
          -- with a separator before the first items, the lists are two tails
          refine hsep.joinedTail_unique hread hs ht hxs hys ?_
          simp only [toList_joined_cons, List.append_assoc] at h
          simp only [joinedTail_cons, List.append_assoc, h]

end ModelGraph.Text
