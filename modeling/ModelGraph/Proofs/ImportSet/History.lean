import Mathlib.Data.Nat.Find
import ModelGraph.Proofs.ImportSet.Order

/-!
# The history of a set

What a set lists after a history of insertions and exclusions can be read off the history. An
element is there when it was inserted once more after the last exclusion that it satisfied
(`mem_replay_iff`), and the elements stand in the order of the first such insertions
(`pairwise_replay`). Both follow from what one more event at the end of a history does.
-/

namespace ModelGraph.OrderedSet

/-- What can happen to a set. -/
inductive Event (α : Type u) where
  | insert (a : α)
  | exclude (p : α → Bool)

/-- The elements that a history inserts, in order and with their repetitions. -/
def insertions {α : Type u} (history : List (Event α)) : List α :=
  history.filterMap fun
    | .insert a => some a
    | .exclude _ => none

/-- The element `a` is inserted at time `i`, and satisfies no later exclusion. -/
structure LastingInsertion {α : Type u} (history : List (Event α)) (a : α) (i : Nat) : Prop where
  inserted : history[i]? = some (.insert a)
  kept : ∀ j p, i < j → history[j]? = some (.exclude p) → p a = false

/-- The first insertion of `a` after the last exclusion that it satisfied, or the first of all when
there was none, is at time `i`. -/
structure EntersAt {α : Type u} (history : List (Event α)) (a : α) (i : Nat) : Prop where
  lasting : LastingInsertion history a i
  first : ∀ j, LastingInsertion history a j → i ≤ j

/-- The element `a` enters before the element `b`. -/
def EntersBefore {α : Type u} (history : List (Event α)) (a b : α) : Prop :=
  ∃ i j, i < j ∧ EntersAt history a i ∧ EntersAt history b j

variable {α : Type u} {history : List (Event α)} {a b : α} {p : α → Bool} {i : Nat}

@[simp] theorem insertions_map_insert (items : List α) :
    insertions (items.map .insert) = items := by
  simp [insertions, List.filterMap_map]

/-! ## One more event in a history -/

/-- What happened at a time before the last event, or at the time of it. -/
theorem event_concat_iff {last e : Event α} : (history ++ [last])[i]? = some e ↔
    history[i]? = some e ∨ (i = history.length ∧ last = e) := by
  rcases Nat.lt_trichotomy i history.length with hlt | rfl | hgt
  · have hne : i ≠ history.length := Nat.ne_of_lt hlt
    simp [List.getElem?_append_left hlt, hne]
  · simp
  · have hne : i ≠ history.length := Nat.ne_of_gt hgt
    have hend : (history ++ [last]).length ≤ i := by
      rw [List.length_append, List.length_singleton]
      exact hgt
    rw [List.getElem?_eq_none hend, List.getElem?_eq_none (Nat.le_of_lt hgt)]
    simp [hne]

theorem LastingInsertion.lt_length (h : LastingInsertion history a i) : i < history.length :=
  (List.getElem?_eq_some_iff.1 h.inserted).1

/-- One more insertion lasts, and the earlier ones last as they did. -/
theorem lastingInsertion_concat_insert : LastingInsertion (history ++ [.insert b]) a i ↔
    LastingInsertion history a i ∨ (i = history.length ∧ a = b) := by
  constructor
  · rintro ⟨hinserted, hkept⟩
    rcases event_concat_iff.1 hinserted with hold | ⟨hlast, hsame⟩
    · exact Or.inl ⟨hold, fun j p hlt hp => hkept j p hlt (event_concat_iff.2 (Or.inl hp))⟩
    · cases hsame
      exact Or.inr ⟨hlast, rfl⟩
  · rintro (⟨hinserted, hkept⟩ | ⟨rfl, rfl⟩)
    · refine ⟨event_concat_iff.2 (Or.inl hinserted), fun j p hlt hp => ?_⟩
      rcases event_concat_iff.1 hp with hold | ⟨-, hsame⟩
      · exact hkept j p hlt hold
      · cases hsame
    · refine ⟨event_concat_iff.2 (Or.inr ⟨rfl, rfl⟩), fun j p hlt hp => ?_⟩
      rcases event_concat_iff.1 hp with hold | ⟨-, hsame⟩
      · exact absurd (List.getElem?_eq_some_iff.1 hold).1 (Nat.not_lt_of_gt hlt)
      · cases hsame

/-- After one more exclusion those insertions last whose elements do not satisfy it. -/
theorem lastingInsertion_concat_exclude : LastingInsertion (history ++ [.exclude p]) a i ↔
    LastingInsertion history a i ∧ p a = false := by
  constructor
  · rintro ⟨hinserted, hkept⟩
    rcases event_concat_iff.1 hinserted with hold | ⟨-, hsame⟩
    · have hlt : i < history.length := (List.getElem?_eq_some_iff.1 hold).1
      exact ⟨⟨hold, fun j p hlt hp => hkept j p hlt (event_concat_iff.2 (Or.inl hp))⟩,
        hkept _ p hlt (event_concat_iff.2 (Or.inr ⟨rfl, rfl⟩))⟩
    · cases hsame
  · rintro ⟨⟨hinserted, hkept⟩, hp⟩
    refine ⟨event_concat_iff.2 (Or.inl hinserted), fun j q hlt hq => ?_⟩
    rcases event_concat_iff.1 hq with hold | ⟨-, hsame⟩
    · exact hkept j q hlt hold
    · cases hsame
      exact hp

/-- An element enters when it has a lasting insertion. -/
theorem exists_entersAt (h : LastingInsertion history a i) : ∃ j, EntersAt history a j := by
  classical
  have hlasting : ∃ i, LastingInsertion history a i := ⟨i, h⟩
  exact ⟨Nat.find hlasting, Nat.find_spec hlasting, fun j hj => Nat.find_min' hlasting hj⟩

/-- One more insertion comes after all others. -/
theorem EntersAt.concat_insert (h : EntersAt history a i) (b : α) :
    EntersAt (history ++ [.insert b]) a i := by
  refine ⟨lastingInsertion_concat_insert.2 (Or.inl h.lasting), fun j hj => ?_⟩
  rcases lastingInsertion_concat_insert.1 hj with hold | ⟨rfl, -⟩
  · exact h.first j hold
  · exact Nat.le_of_lt h.lasting.lt_length

theorem EntersAt.concat_exclude (h : EntersAt history a i) (hp : p a = false) :
    EntersAt (history ++ [.exclude p]) a i :=
  ⟨lastingInsertion_concat_exclude.2 ⟨h.lasting, hp⟩,
    fun j hj => h.first j (lastingInsertion_concat_exclude.1 hj).1⟩

/-- An element without a lasting insertion enters with the next one. -/
theorem entersAt_length (h : ∀ i, ¬ LastingInsertion history a i) :
    EntersAt (history ++ [.insert a]) a history.length := by
  refine ⟨lastingInsertion_concat_insert.2 (Or.inr ⟨rfl, rfl⟩), fun j hj => ?_⟩
  rcases lastingInsertion_concat_insert.1 hj with hold | ⟨rfl, -⟩
  · exact absurd hold (h j)
  · exact Nat.le_refl _

/-! ## One more event in a set -/

variable [BEq α]

/-- The set after an event. -/
def after (s : OrderedSet α) : Event α → OrderedSet α
  | .insert a => s.insert a
  | .exclude p => s.exclude p

/-- The set after a history that begins without elements. -/
def replay (history : List (Event α)) : OrderedSet α :=
  history.foldl after empty

@[simp] theorem replay_concat (history : List (Event α)) (last : Event α) :
    replay (history ++ [last]) = (replay history).after last :=
  List.foldl_concat ..

/-- A history goes on from the set that it has led to. -/
theorem replay_append (history more : List (Event α)) :
    replay (history ++ more) = more.foldl after (replay history) :=
  List.foldl_append ..

/-- A history of nothing but insertions leads to the set of what it inserts. -/
theorem replay_map_insert (items : List α) : replay (items.map .insert) = ofList items :=
  List.foldl_map

theorem mem_toList_after_exclude {s : OrderedSet α} :
    a ∈ (s.after (.exclude p)).toList ↔ a ∈ s.toList ∧ p a = false := by
  simp [after]

variable [LawfulBEq α]

theorem mem_toList_after_insert {s : OrderedSet α} :
    a ∈ (s.after (.insert b)).toList ↔ a ∈ s.toList ∨ a = b :=
  mem_toList_insert

/-- A list to which a new element is added or not keeps a relation that the element stands in to all
others. -/
theorem pairwise_toList_insert {R : α → α → Prop} {s : OrderedSet α} (h : s.toList.Pairwise R)
    (hnew : b ∉ s.toList → ∀ a ∈ s.toList, R a b) : (s.insert b).toList.Pairwise R := by
  unfold insert
  split
  · exact h
  · next hcontains =>
      have hb : b ∉ s.toList := fun hmem => hcontains (contains_iff.2 hmem)
      rw [List.pairwise_append]
      refine ⟨h, List.pairwise_singleton R b, fun a ha c hc => ?_⟩
      rw [List.mem_singleton.1 hc]
      exact hnew hb a ha

/-! ## Histories -/

/-- An element is in a set exactly when it was inserted after the last exclusion that it
satisfied. -/
theorem mem_replay_iff : a ∈ (replay history).toList ↔ ∃ i, LastingInsertion history a i := by
  induction history using List.reverseRecOn with
  | nil =>
      simp only [replay, List.foldl_nil, toList_empty, List.not_mem_nil, false_iff, not_exists]
      rintro i ⟨hinserted, -⟩
      cases hinserted
  | append_singleton history last ih =>
      rw [replay_concat]
      cases last with
      | insert b =>
          rw [mem_toList_after_insert, ih]
          simp only [lastingInsertion_concat_insert, exists_or, exists_eq_left]
      | exclude p =>
          rw [mem_toList_after_exclude, ih]
          simp only [lastingInsertion_concat_exclude, exists_and_right]

/-- No element is listed twice. -/
theorem nodup_replay (history : List (Event α)) : (replay history).toList.Nodup := by
  induction history using List.reverseRecOn with
  | nil => exact List.nodup_nil
  | append_singleton history last ih =>
      rw [replay_concat]
      cases last with
      | insert b => exact pairwise_toList_insert ih fun hb a ha hsame => hb (hsame ▸ ha)
      | exclude p => exact ih.filter _

/-- The elements stand in the order in which they entered. -/
theorem pairwise_replay (history : List (Event α)) :
    (replay history).toList.Pairwise (EntersBefore history) := by
  induction history using List.reverseRecOn with
  | nil => exact List.Pairwise.nil
  | append_singleton history last ih =>
      rw [replay_concat]
      cases last with
      | insert b =>
          refine pairwise_toList_insert (ih.imp fun ⟨i, j, hlt, ha, hb⟩ =>
            ⟨i, j, hlt, ha.concat_insert b, hb.concat_insert b⟩) fun hnew a ha => ?_
          obtain ⟨_, hlasting⟩ := mem_replay_iff.1 ha
          obtain ⟨i, hi⟩ := exists_entersAt hlasting
          have hnone : ∀ j, ¬ LastingInsertion history b j := fun j hj =>
            hnew (mem_replay_iff.2 ⟨j, hj⟩)
          exact ⟨i, _, hi.lasting.lt_length, hi.concat_insert b, entersAt_length hnone⟩
      | exclude p =>
          -- What is left did not satisfy `p`, so it entered when it did before.
          refine (ih.filter _).imp_of_mem fun ha hb ⟨i, j, hlt, hi, hj⟩ => ?_
          have hleft := (mem_toList_after_exclude.1 ha).2
          have hright := (mem_toList_after_exclude.1 hb).2
          exact ⟨i, j, hlt, hi.concat_exclude hleft, hj.concat_exclude hright⟩

end ModelGraph.OrderedSet
