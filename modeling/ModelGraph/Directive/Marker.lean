import ModelGraph.Text.Classes
import ModelGraph.Text.Search

/-!
# Markers

A marker is a text of the form `@zod.tag([payload])`, where the tag is made of word characters and
the payload of characters of its own alphabet. Neither alphabet has the character that ends it, so
a marker at the front of a text is read without going back, and `Marker.find?` cuts a text at its
first marker.
-/

namespace ModelGraph

/-- A marker. -/
structure Marker where
  tag : List Char
  payload : List Char
  deriving DecidableEq, Repr

namespace Marker

/-- The punctuation that a payload may have besides word characters. -/
def payloadPunctuation : List Char :=
  " \"'\x7b\x7d/,;.*@$-".toList

/-- Whether `c` may stand in a payload. -/
def isPayload (c : Char) : Bool :=
  Text.isWord c || payloadPunctuation.contains c

/-- What a marker begins with. -/
def opening : List Char := "@zod.".toList

/-- What stands between the tag and the payload. -/
def middle : List Char := "([".toList

/-- What a marker ends with. -/
def closing : List Char := "])".toList

/-- The text of a marker. -/
def text (m : Marker) : List Char :=
  opening ++ m.tag ++ middle ++ m.payload ++ closing

/-- The longest nonempty run of `p` at the front of a text, and the rest. -/
def run? (p : Char → Bool) (s : List Char) : Option (List Char × List Char) :=
  match s.takeWhile p with
  | [] => none
  | run => some (run, s.dropWhile p)

/-- Reads a marker at the front of a text; the second part is the text after it. -/
def read? (s : List Char) : Option (Marker × List Char) := do
  let s ← Text.after? opening s
  let (tag, s) ← run? Text.isWord s
  let s ← Text.after? middle s
  let (payload, s) ← run? isPayload s
  let rest ← Text.after? closing s
  return (⟨tag, payload⟩, rest)

/-- The text before the first marker of a text, the marker, and the text after it. -/
def find? : List Char → Option (List Char × Marker × List Char)
  | [] => none
  | c :: r =>
    match read? (c :: r) with
    | some (m, rest) => some ([], m, rest)
    | none => (find? r).map fun (before, m, rest) => (c :: before, m, rest)

/-- A run is what stands before the rest. -/
theorem run?_eq_some {p : Char → Bool} {s run rest : List Char}
    (h : run? p s = some (run, rest)) : s = run ++ rest := by
  unfold run? at h
  split at h
  · cases h
  · cases h
    exact (List.takeWhile_append_dropWhile).symm

/-- A marker that was read stands at the front of the text. -/
theorem read?_eq_some {s rest : List Char} {m : Marker} (h : read? s = some (m, rest)) :
    s = m.text ++ rest := by
  simp only [read?, Option.pure_def, Option.bind_eq_bind, Option.bind_eq_some_iff] at h
  obtain ⟨s₁, h₁, ⟨tag, s₂⟩, h₂, s₃, h₃, ⟨payload, s₄⟩, h₄, s₅, h₅, heq⟩ := h
  cases heq
  have e₃ : s₂ = middle ++ s₃ := Text.after?_eq_some.1 h₃
  have e₅ : s₄ = closing ++ rest := Text.after?_eq_some.1 h₅
  rw [Text.after?_eq_some.1 h₁, run?_eq_some h₂, e₃, run?_eq_some h₄, e₅]
  simp [text]

/-- Cutting a text at its first marker loses nothing. -/
theorem find?_eq_some {s before rest : List Char} {m : Marker}
    (h : find? s = some (before, m, rest)) : s = before ++ m.text ++ rest := by
  induction s generalizing before with
  | nil => cases h
  | cons c r ih =>
    unfold find? at h
    split at h
    · next m' rest' hread =>
      cases h
      simpa using read?_eq_some hread
    · obtain ⟨⟨b, m', t⟩, hb, heq⟩ := Option.map_eq_some_iff.1 h
      cases heq
      simp [ih hb]

end Marker

end ModelGraph
