import Mathlib.Data.List.Induction
import Mathlib.Data.List.Nodup
import ModelGraph.OrderedSet

/-!
# The order of a set

The elements of a set stand where they first came: the set of the items of a list is the list with
its later repetitions left out (`toList_ofList`). Such a list is known by what one more item at its
end does to it, from which follows how it goes with renamed and with left out items.
-/

namespace ModelGraph.OrderedSet

variable {α : Type u} {β : Type v} [BEq α] [LawfulBEq α] [BEq β] [LawfulBEq β]

/-! ## Lists without repetitions -/

section Repetitions

variable {items : List α} {a : α}

/-- A repeated item at the end changes nothing. -/
theorem eraseDups_concat_of_mem (h : a ∈ items) : (items ++ [a]).eraseDups = items.eraseDups := by
  simp [List.eraseDups_append, List.removeAll, h]

/-- A new item at the end stays there. -/
theorem eraseDups_concat_of_notMem (h : a ∉ items) :
    (items ++ [a]).eraseDups = items.eraseDups ++ [a] := by
  simp [List.eraseDups_append, List.removeAll, h, List.eraseDups_cons]

/-- What is left has no repetitions. -/
theorem nodup_eraseDups (items : List α) : items.eraseDups.Nodup := by
  -- From the end, since what is there already decides on the item that comes next.
  induction items using List.reverseRecOn with
  | nil => simp
  | append_singleton items a ih =>
      by_cases h : a ∈ items
      · rwa [eraseDups_concat_of_mem h]
      · rw [eraseDups_concat_of_notMem h]
        have hnew : a ∉ items.eraseDups := mt List.mem_eraseDups.1 h
        rw [← List.concat_eq_append]
        exact List.Nodup.concat hnew ih

/-- Renaming items without confusing any keeps the repetitions where they are. -/
theorem eraseDups_map {f : α → β} (hf : Function.Injective f) (items : List α) :
    (items.map f).eraseDups = items.eraseDups.map f := by
  induction items using List.reverseRecOn with
  | nil => simp
  | append_singleton items a ih =>
      have hmem : f a ∈ items.map f ↔ a ∈ items := List.mem_map_of_injective hf
      rw [List.map_append, List.map_singleton]
      by_cases h : a ∈ items
      · rw [eraseDups_concat_of_mem h, eraseDups_concat_of_mem (hmem.2 h), ih]
      · rw [eraseDups_concat_of_notMem h, eraseDups_concat_of_notMem (mt hmem.1 h), ih,
          List.map_append, List.map_singleton]

/-- It does not matter whether items are left out before the repetitions or after them. -/
theorem eraseDups_filter (p : α → Bool) (items : List α) :
    (items.filter p).eraseDups = items.eraseDups.filter p := by
  induction items using List.reverseRecOn with
  | nil => simp
  | append_singleton items a ih =>
      rw [List.filter_append]
      by_cases hp : p a = true
      · have hmem : a ∈ items.filter p ↔ a ∈ items := by simp [hp]
        have hone : [a].filter p = [a] := List.filter_cons_of_pos hp
        by_cases h : a ∈ items
        · rw [hone, eraseDups_concat_of_mem h, eraseDups_concat_of_mem (hmem.2 h), ih]
        · rw [hone, eraseDups_concat_of_notMem h, eraseDups_concat_of_notMem (mt hmem.1 h), ih,
            List.filter_append, hone]
      · have hone : [a].filter p = [] := List.filter_cons_of_neg hp
        by_cases h : a ∈ items
        · rw [hone, List.append_nil, ih, eraseDups_concat_of_mem h]
        · rw [hone, List.append_nil, ih, eraseDups_concat_of_notMem h, List.filter_append, hone,
            List.append_nil]

/-- There is nothing left out the second time. -/
theorem eraseDups_eraseDups (items : List α) : items.eraseDups.eraseDups = items.eraseDups := by
  induction items using List.reverseRecOn with
  | nil => simp
  | append_singleton items a ih =>
      by_cases h : a ∈ items
      · rw [eraseDups_concat_of_mem h, ih]
      · have hnew : a ∉ items.eraseDups := mt List.mem_eraseDups.1 h
        rw [eraseDups_concat_of_notMem h, eraseDups_concat_of_notMem hnew, ih]

/-- Repetitions at the end may be left out in advance. -/
theorem eraseDups_append_eraseDups (items others : List α) :
    (items ++ others.eraseDups).eraseDups = (items ++ others).eraseDups := by
  rw [List.eraseDups_append, List.eraseDups_append, List.removeAll, List.removeAll,
    eraseDups_filter, eraseDups_filter, eraseDups_eraseDups]

end Repetitions

/-! ## Sets -/

/-- An element is found in a set exactly when it is one of its elements. -/
theorem contains_iff {s : OrderedSet α} {a : α} : s.contains a = true ↔ a ∈ s.toList :=
  List.contains_iff_mem

omit [LawfulBEq α] in
/-- The last item is inserted after all others. -/
theorem ofList_concat (items : List α) (a : α) : ofList (items ++ [a]) = (ofList items).insert a :=
  List.foldl_append ..

/-- The set of the items of a list has each of them once, where it first comes. -/
theorem toList_ofList (items : List α) : (ofList items).toList = items.eraseDups := by
  induction items using List.reverseRecOn with
  | nil => rfl
  | append_singleton items a ih =>
      rw [ofList_concat, insert]
      by_cases h : a ∈ items
      · rw [if_pos (contains_iff.2 (mem_toList_ofList.2 h)), ih, eraseDups_concat_of_mem h]
      · have hnew : ¬ (ofList items).contains a = true :=
          mt contains_iff.1 (mt mem_toList_ofList.1 h)
        rw [if_neg hnew, ih, eraseDups_concat_of_notMem h]

/-- It does not matter whether items are left out before a set is made of them or after. -/
theorem exclude_ofList (items : List α) (p : α → Bool) :
    (ofList items).exclude p = ofList (items.filter fun a => !p a) := by
  have hlists : (ofList items).toList.filter (fun a => !p a) =
      (ofList (items.filter fun a => !p a)).toList := by
    rw [toList_ofList, toList_ofList, eraseDups_filter]
  exact congrArg OrderedSet.mk hlists

end ModelGraph.OrderedSet
