import ModelGraph.Proofs.Directive.Quotation

/-!
# Extracting until no directive is left

What an extraction leaves can have a marker again, even one that was not there before, so counting
markers does not show that repeated extraction ends. Its length does: every round shortens the text
by the marker that it takes out (`extract_removes_first`), and a marker with the known tag has
sixteen characters at least (`Rounds.length_le`). Read `exhaust_ends` for how many directives there
can be, and what is left when there is no further one.
-/

namespace ModelGraph

open Marker

/-- A marker with the known tag has sixteen characters at least. -/
theorem Marker.sixteen_le_length_text {m : Marker} (hm : m.WellFormed)
    (htag : m.tag = Directive.importTag.toList) : 16 ≤ m.text.length := by
  have hpayload := List.length_pos_of_ne_nil hm.payload_ne_nil
  have hlength : m.text.length = 15 + m.payload.length := by
    simp [text, htag, opening, middle, closing, Directive.importTag]
    omega
  omega

namespace Directive

variable {documentation model left : String} {directive : Directive} {directives : List Directive}

/-- The directives are extracted one after the other, each from what the one before left, and
`left` is the text behind the last one. -/
inductive Rounds (model : String) : String → List Directive → String → Prop
  | stop (documentation : String) : Rounds model documentation [] documentation
  | round {documentation left : String} {directive : Directive} {directives : List Directive}
      (hextract : extract (some documentation) model = .ok (some directive))
      (hrounds : Rounds model directive.cleared directives left) :
      Rounds model documentation (directive :: directives) left

/-- An extraction gives what was read. -/
theorem extract_eq_ok_iff {found : Option Directive} :
    extract (some documentation) model = .ok found ↔ read documentation = .ok found := by
  show (read documentation).mapError _ = .ok found ↔ _
  cases read documentation <;> simp [Except.mapError]

/-! ## One round -/

/-- An extraction takes out the first marker of a text, and nothing else. -/
theorem extract_removes_first (h : extract (some documentation) model = .ok (some directive)) :
    ∃ before m rest, StandsFirst documentation.toList before m rest ∧ m.tag = importTag.toList ∧
      directive.cleared = String.ofList (before ++ rest) ∧
      directive.cleared.length + m.text.length = documentation.length := by
  obtain ⟨text, before, m, rest, htext, hfirst, htag, -⟩ := exists_first_of_extract h
  cases htext
  rw [extract_of_import hfirst htag] at h
  cases h
  refine ⟨before, m, rest, hfirst, htag, rfl, ?_⟩
  have hlength := congrArg List.length hfirst.text_eq
  simp only [List.length_append, String.length_toList] at hlength
  simp only [String.length_ofList, List.length_append]
  omega

/-- So it shortens the text by sixteen characters at least. -/
theorem length_cleared_le (h : extract (some documentation) model = .ok (some directive)) :
    directive.cleared.length + 16 ≤ documentation.length := by
  obtain ⟨before, m, rest, hfirst, htag, -, hlength⟩ := extract_removes_first h
  have hmarker := sixteen_le_length_text hfirst.wellFormed htag
  omega

/-! ## All rounds -/

namespace Rounds

/-- Sixteen characters are gone for each directive. -/
theorem length_le (h : Rounds model documentation directives left) :
    left.length + 16 * directives.length ≤ documentation.length := by
  induction h with
  | stop documentation => simp
  | round hextract hrounds ih =>
      have hround := length_cleared_le hextract
      rw [List.length_cons]
      omega

/-- Exhausting a text begins with the rounds that were already run, and goes on with the text that
they left. -/
theorem exhaust_eq (h : Rounds model documentation directives left) :
    exhaust documentation = (directives ++ (exhaust left).1, (exhaust left).2) := by
  induction h with
  | stop documentation => rfl
  | round hextract hrounds ih =>
      rw [exhaust, extract_eq_ok_iff.1 hextract]
      simp [ih]

end Rounds

/-- The extraction on which exhausting a text ends. -/
def lastOutcome (model : String) : Option String → Except Failure (Option Directive)
  | none => .ok none
  | some tag => .error (.unknownTag model tag)

/-- Exhausting a text runs rounds up to an extraction without a directive. -/
theorem exists_rounds_exhaust (documentation model : String) :
    ∃ left, Rounds model documentation (exhaust documentation).1 left ∧
      extract (some left) model = lastOutcome model (exhaust documentation).2 := by
  fun_induction exhaust documentation with
  | case1 documentation hread =>
      exact ⟨documentation, .stop documentation, extract_eq_ok_iff.2 hread⟩
  | case2 documentation directive hread directives tag hexhaust ih =>
      rw [hexhaust] at ih
      obtain ⟨left, hrounds, hlast⟩ := ih
      exact ⟨left, .round (extract_eq_ok_iff.2 hread) hrounds, hlast⟩
  | case3 documentation tag hread =>
      refine ⟨documentation, .stop documentation, ?_⟩
      show (read documentation).mapError _ = _
      rw [hread]
      rfl

/-- Extracting again and again from what was left comes to an end, after one round at most for
every sixteen characters of the text. It ends with a text without a marker, or with the failure on
a first marker whose tag is unknown. However far the rounds have come, the next one takes out the
first marker of the text that is left and shortens the text by exactly this marker. -/
theorem exhaust_ends (documentation model : String) :
    (exhaust documentation).1.length ≤ documentation.length / 16 ∧
    (∃ left, Rounds model documentation (exhaust documentation).1 left ∧
      ((extract (some left) model = .ok none ∧ (exhaust documentation).2 = none ∧
          ¬ Marked left.toList) ∨
        ∃ before m rest, StandsFirst left.toList before m rest ∧ m.tag ≠ importTag.toList ∧
          extract (some left) model = .error (.unknownTag model (String.ofList m.tag)) ∧
          (exhaust documentation).2 = some (String.ofList m.tag))) ∧
    ∀ directives left, Rounds model documentation directives left →
      directives <+: (exhaust documentation).1 ∧
      ∀ directive, extract (some left) model = .ok (some directive) →
        ∃ before m rest, StandsFirst left.toList before m rest ∧ m.tag = importTag.toList ∧
          directive.cleared = String.ofList (before ++ rest) ∧
          directive.cleared.length + m.text.length = left.length := by
  obtain ⟨last, hrounds, hlast⟩ := exists_rounds_exhaust documentation model
  refine ⟨?_, ⟨last, hrounds, ?_⟩, ?_⟩
  · have hlength := hrounds.length_le
    omega
  · cases htag : (exhaust documentation).2 with
    | none =>
        rw [htag] at hlast
        exact Or.inl ⟨hlast, rfl, (extract_eq_none_iff model).1 hlast⟩
    | some tag =>
        rw [htag] at hlast
        obtain ⟨before, m, rest, hfirst, hunknown, hfailure⟩ :=
          extract_eq_error_iff_first.1 hlast
        cases hfailure
        exact Or.inr ⟨before, m, rest, hfirst, hunknown, hlast, rfl⟩
  · intro directives left hsome
    rw [hsome.exhaust_eq]
    exact ⟨List.prefix_append directives _, fun directive => extract_removes_first⟩

/-- Two directives are as many as 32 characters can have. The marker of the second one is there only
when the first one is taken out, and neither of them has a statement. -/
example : exhaust "@zod.im@zod.import([x])port([y])" =
    ([⟨[], "@zod.import([y])"⟩, ⟨[], ""⟩], none) := by
  decide +kernel

end Directive

end ModelGraph
