import ModelGraph.Text.Case.Table
import ModelGraph.Text.Case.Context

/-!
# Upper and lower case

The upper case of a text is the upper case of its letters one by one; a letter may become several
characters. The same holds of the lower case, with one exception: the capital sigma becomes a
final sigma when a letter stands before it and none after it. On ASCII texts both are the maps of
the single characters (`lower_of_ascii`).
-/

namespace ModelGraph.Text

/-- The other case of one character, by a table of expansions and a table of runs. -/
def changeCase (expansions : List (Nat × List Nat)) (runs : List CaseRun) (c : Char) :
    List Char :=
  match expansions.lookup c.toNat with
  | some letters => letters.map Char.ofNat
  | none => [(runs.findSome? fun run => run.move? c.toNat).elim c Char.ofNat]

/-- The upper case of one character. -/
def upperChar (c : Char) : List Char :=
  if c.toNat < 128 then [c.toUpper] else changeCase upperExpansions upperRuns c

/-- The lower case of one character that is not a capital sigma inside a word. -/
def lowerChar (c : Char) : List Char :=
  if c.toNat < 128 then [c.toLower] else changeCase lowerExpansions lowerRuns c

/-- The capital sigma, whose lower case depends on its place in the word. -/
def capitalSigma : Char := 'Σ'

/-- The lower case of the sigma between the characters `before` (nearest first) and `rest`. -/
def lowerSigma (before rest : List Char) : Char :=
  if leadsCased before && !leadsCased rest then 'ς' else 'σ'

/-- The lower case of a text that follows the characters `before` (nearest first). -/
def lowerAfter (before : List Char) : List Char → List Char
  | [] => []
  | c :: r =>
    (if c = capitalSigma then [lowerSigma before r] else lowerChar c) ++ lowerAfter (c :: before) r

/-- The lower case of a text. -/
def lower (s : List Char) : List Char :=
  lowerAfter [] s

/-- The upper case of a text. -/
def upper (s : List Char) : List Char :=
  s.flatMap upperChar

/-- The text with its first character in lower case and the rest unchanged. -/
def lowerFirst : List Char → List Char
  | [] => []
  | c :: r => lower [c] ++ r

/-- The lower case of an ASCII text goes letter by letter. -/
theorem lower_of_ascii {s : List Char} (h : ∀ c ∈ s, c.toNat < 128) :
    lower s = s.map Char.toLower := by
  unfold lower
  generalize ([] : List Char) = before
  induction s generalizing before with
  | nil => rfl
  | cons c r ih =>
    have hc : c.toNat < 128 := h c (by simp)
    have hne : c ≠ capitalSigma := by
      rintro rfl
      exact absurd hc (by decide)
    simp [lowerAfter, lowerChar, hc, hne, ih (fun d hd => h d (by simp [hd]))]

end ModelGraph.Text
