/-!
# Ordered sets

An ordered set keeps its elements in the order in which they were first inserted. It is observed
through `toList`; inserting an element that is there changes nothing. What was inserted is all that
is in a set (`mem_toList_ofList`).
-/

namespace ModelGraph

/-- A set that remembers the order of first insertion. -/
structure OrderedSet (α : Type u) where
  toList : List α
  deriving Repr

namespace OrderedSet

variable {α : Type u}

/-- The set without elements. -/
def empty : OrderedSet α :=
  ⟨[]⟩

/-- The number of elements. -/
def size (s : OrderedSet α) : Nat :=
  s.toList.length

/-- The set without the elements that satisfy `p`. -/
def exclude (s : OrderedSet α) (p : α → Bool) : OrderedSet α :=
  ⟨s.toList.filter fun a => !p a⟩

@[simp] theorem toList_empty : (empty : OrderedSet α).toList = [] := rfl

@[simp] theorem toList_exclude (s : OrderedSet α) (p : α → Bool) :
    (s.exclude p).toList = s.toList.filter fun a => !p a := rfl

variable [BEq α]

/-- Whether an element is in the set. -/
def contains (s : OrderedSet α) (a : α) : Bool :=
  s.toList.contains a

/-- The set with an element, which comes last if it is new. -/
def insert (s : OrderedSet α) (a : α) : OrderedSet α :=
  if s.contains a then s else ⟨s.toList ++ [a]⟩

/-- The set with each of the items inserted in turn. -/
def insertAll (s : OrderedSet α) (items : List α) : OrderedSet α :=
  items.foldl insert s

/-- The set of the items of a list. -/
def ofList (items : List α) : OrderedSet α :=
  empty.insertAll items

/-- The set with the elements read from `items` in turn, up to the first item that is refused,
and that refusal. -/
def insertEach (read : β → Except ε α) : OrderedSet α → List β → OrderedSet α × Option ε
  | s, [] => (s, none)
  | s, item :: rest =>
    match read item with
    | .ok a => insertEach read (s.insert a) rest
    | .error e => (s, some e)

@[simp] theorem insertAll_nil (s : OrderedSet α) : s.insertAll [] = s := rfl

@[simp] theorem insertAll_cons (s : OrderedSet α) (a : α) (items : List α) :
    s.insertAll (a :: items) = (s.insert a).insertAll items := rfl

variable [LawfulBEq α]

/-- Inserting an element adds it and nothing else. -/
@[simp] theorem mem_toList_insert {s : OrderedSet α} {a b : α} :
    b ∈ (s.insert a).toList ↔ b ∈ s.toList ∨ b = a := by
  unfold insert
  split
  · next h =>
    have hmem : a ∈ s.toList := List.contains_iff_mem.1 h
    exact ⟨Or.inl, fun hb => hb.elim id fun heq => heq ▸ hmem⟩
  · simp

/-- Inserting items adds them and nothing else. -/
theorem mem_toList_insertAll {s : OrderedSet α} {items : List α} {a : α} :
    a ∈ (s.insertAll items).toList ↔ a ∈ s.toList ∨ a ∈ items := by
  induction items generalizing s with
  | nil => simp
  | cons b items ih => simp [ih, or_assoc]

/-- The set of the items of a list has these and nothing else. -/
@[simp] theorem mem_toList_ofList {items : List α} {a : α} :
    a ∈ (ofList items).toList ↔ a ∈ items := by
  simp [ofList, mem_toList_insertAll]

end OrderedSet

end ModelGraph
