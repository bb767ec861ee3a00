import ModelGraph.Action.Basic
import ModelGraph.Proofs.Name.LineBreaks
import ModelGraph.Proofs.Text.Occurrence

/-!
# Verbs in front of a model name

The name of an action is a verb with the name of a model after it. A model name begins with a
capital, and the verbs are few, so it can be computed which verbs may reach over the place where
the two meet: only verbs that begin with the whole verb in front (`occurs_append_iff`). No verb
reaches into the suffix, so the suffix does not change which verb is found
(`find?_append_throwSuffix`).
-/

namespace ModelGraph

/-- Whether a text is the name of a model: a capital, then letters, digits and underscores. -/
def isModelName (name : String) : Bool :=
  match name.toList with
  | [] => false
  | c :: r => c.isUpper && r.all fun d => d.isAlphanum || d == '_'

/-- A model name is a capital, then letters, digits and underscores. -/
theorem isModelName_iff {name : String} : isModelName name = true ↔
    ∃ c r, name.toList = c :: r ∧ c.isUpper = true ∧ ∀ d ∈ r, d.isAlphanum = true ∨ d = '_' := by
  unfold isModelName
  cases name.toList with
  | nil => simp
  | cons c r =>
      simp only [Bool.and_eq_true, List.all_eq_true, Bool.or_eq_true, beq_iff_eq]
      constructor
      · rintro ⟨hc, hr⟩
        exact ⟨c, r, rfl, hc, hr⟩
      · rintro ⟨d, t, htext, hd, ht⟩
        cases htext
        exact ⟨hd, ht⟩

/-- A model name begins with a capital. -/
theorem startsWithCapital_of_isModelName {model : String} (h : isModelName model = true) :
    startsWithCapital model = true := by
  obtain ⟨c, r, htext, hc, -⟩ := isModelName_iff.1 h
  exact startsWithCapital_iff.2 ⟨c, r, htext, hc⟩

/-- What a name that begins with a capital begins with begins with a capital. -/
theorem isUpper_head_of_prefix {model : String} (h : startsWithCapital model = true)
    {front : List Char} (hne : front ≠ []) (hfront : front <+: model.toList) :
    front.head?.any Char.isUpper = true := by
  obtain ⟨c, r, htext, hc⟩ := startsWithCapital_iff.1 h
  obtain ⟨d, front, rfl⟩ := List.exists_cons_of_ne_nil hne
  obtain ⟨rest, hrest⟩ := hfront
  rw [htext] at hrest
  obtain ⟨rfl, -⟩ := List.cons.inj hrest
  simpa using hc

/-- A model name has letters, digits and underscores only. -/
theorem letters_of_isModelName {model : String} (h : isModelName model = true) :
    ∀ c ∈ model.toList, c.isAlphanum = true ∨ c = '_' := by
  obtain ⟨c, r, htext, hc, hr⟩ := isModelName_iff.1 h
  intro d hd
  rw [htext] at hd
  rcases List.mem_cons.1 hd with rfl | hd
  · exact Or.inl (Text.isAlphanum_of_isUpper hc)
  · exact hr d hd

namespace Verb

/-- The verbs that are listed before a verb. -/
def earlier (verbs : List String) (verb : String) : List String :=
  verbs.takeWhile (· != verb)

/-- A listed verb is found exactly in the names that it occurs in and no earlier verb does. -/
theorem find?_eq_some_iff {verbs : List String} {verb name : String} (hverb : verb ∈ verbs) :
    find? verbs name = some verb ↔
      Text.occurs verb name = true ∧ ∀ v ∈ earlier verbs verb, Text.occurs v name = false := by
  unfold find? earlier
  induction verbs with
  | nil => cases hverb
  | cons v verbs ih =>
      by_cases hsame : v = verb
      · subst hsame
        cases hoccurs : Text.occurs v name with
        | true => simp [hoccurs]
        | false =>
            simp only [List.find?_cons, hoccurs]
            constructor
            · intro h
              have hfound := List.find?_some h
              simp [hoccurs] at hfound
            · intro h
              cases h.1
      · have hmem : verb ∈ verbs := by simpa [Ne.symm hsame] using hverb
        cases hoccurs : Text.occurs v name <;> simp [hoccurs, hsame, ih hmem]

/-- Some verb is found in every name that a listed verb occurs in. -/
theorem exists_find? {verbs : List String} {verb name : String} (hverb : verb ∈ verbs)
    (hoccurs : Text.occurs verb name = true) : ∃ found, find? verbs name = some found :=
  Option.isSome_iff_exists.1 (List.find?_isSome.2 ⟨verb, hverb, hoccurs⟩)

/-- No verb is found exactly in the names that no listed verb occurs in. -/
theorem find?_eq_none_iff {verbs : List String} {name : String} :
    find? verbs name = none ↔ ∀ v ∈ verbs, Text.occurs v name = false := by
  simp [find?, List.find?_eq_none]

/-! ## The verbs of the client -/

/-- No verb has an earlier verb as a part. -/
theorem not_occurs_of_earlier :
    ∀ verb ∈ all, ∀ v ∈ earlier all verb, Text.occurs v verb = false := by
  decide

/-- An earlier verb that goes on with a capital where a verb ends begins with the whole verb. -/
theorem eq_append_of_completion :
    ∀ verb ∈ all, ∀ v ∈ earlier all verb, ∀ rest ∈ Text.completions v.toList verb.toList,
      rest.head?.any Char.isUpper = true → v.toList = verb.toList ++ rest := by
  decide

/-- The suffix neither occurs in a verb nor begins at its end. -/
theorem throwSuffix_apart :
    ∀ verb ∈ all, Text.occurs Action.throwSuffix verb = false ∧
      Text.completions Action.throwSuffix.toList verb.toList = [] := by
  decide

variable {verb model : String}

/-- An earlier verb occurs in a verb with a model name after it exactly when it occurs in the model
name, or the model name begins with what it has after the verb. -/
theorem occurs_append_iff {v : String} (hverb : verb ∈ all) (hv : v ∈ earlier all verb)
    (hmodel : startsWithCapital model = true) :
    Text.occurs v (verb ++ model) = true ↔
      Text.occurs v model = true ∨ ∃ rest, v.toList = verb.toList ++ rest ∧ rest <+: model.toList := by
  simp only [Text.occurs_iff, String.toList_append]
  constructor
  · intro h
    rcases Text.infix_append_iff_completions.1 h with h | h | ⟨rest, hrest, hprefix⟩
    · have hnot := not_occurs_of_earlier verb hverb v hv
      simp [Text.occurs_iff.2 h] at hnot
    · exact Or.inl h
    · obtain ⟨-, -, hne, -⟩ := Text.mem_completions.1 hrest
      have hcapital := isUpper_head_of_prefix hmodel hne hprefix
      exact Or.inr ⟨rest, eq_append_of_completion verb hverb v hv rest hrest hcapital, hprefix⟩
  · rintro (h | ⟨rest, hwhole, hprefix⟩)
    · exact List.infix_append_of_infix_right h
    · rw [hwhole]
      exact ((List.prefix_append_right_inj _).2 hprefix).isInfix

/-- The suffix occurs in a verb with a text after it exactly when it occurs in that text. -/
theorem occurs_throwSuffix_append (hverb : verb ∈ all) :
    Text.occurs Action.throwSuffix (verb ++ model) = Text.occurs Action.throwSuffix model := by
  obtain ⟨hnot, hnone⟩ := throwSuffix_apart verb hverb
  rw [Bool.eq_iff_iff]
  simp only [Text.occurs_iff, String.toList_append, Text.infix_append_iff_completions, hnone]
  have hverb : ¬ Action.throwSuffix.toList <:+: verb.toList := by simp [← Text.occurs_iff, hnot]
  simp [hverb]

/-- No verb lies in the suffix or reaches into it. -/
theorem not_reachesInto_throwSuffix :
    ∀ verb ∈ all, Text.occurs verb Action.throwSuffix = false ∧
      Text.reachesInto verb.toList Action.throwSuffix.toList = false := by
  decide

/-- A verb occurs in a text with the suffix exactly when it occurs in the text. -/
theorem occurs_append_throwSuffix (hverb : verb ∈ all) (text : String) :
    Text.occurs verb (text ++ Action.throwSuffix) = Text.occurs verb text := by
  obtain ⟨hnot, hreach⟩ := not_reachesInto_throwSuffix verb hverb
  have hsuffix : ¬ verb.toList <:+: Action.throwSuffix.toList := by simp [← Text.occurs_iff, hnot]
  rw [Bool.eq_iff_iff, Text.occurs_iff, Text.occurs_iff, String.toList_append,
    Text.infix_append_iff_of_not_reachesInto hreach, or_iff_left hsuffix]

/-- The same verb is found with the suffix and without it. -/
theorem find?_append_throwSuffix (text : String) :
    find? all (text ++ Action.throwSuffix) = find? all text := by
  -- The list is walked through, so the claim is made for every part of it.
  have hsame : ∀ verbs ⊆ all, find? verbs (text ++ Action.throwSuffix) = find? verbs text := by
    intro verbs hverbs
    unfold find?
    induction verbs with
    | nil => rfl
    | cons v verbs ih =>
        rw [List.find?_cons, List.find?_cons, occurs_append_throwSuffix (hverbs (by simp)),
          ih fun w hw => hverbs (by simp [hw])]
  exact hsame all (List.Subset.refl _)

end Verb

end ModelGraph
