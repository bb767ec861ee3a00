import Mathlib.Data.List.Infix
import ModelGraph.Proofs.Action.Decoding

/-!
# Names of argument types

The name of the type of the arguments of an action is put together from the model type, the label
of the verb and perhaps the suffix, with nothing in between. It can still be taken apart in one way
only (`argName_eq_iff`): no label ends with another one, and none ends like the suffix.
-/

namespace ModelGraph

namespace Verb

/-- A label as it stands in the name of a type of arguments. -/
def labelLetters (label : String) : List Char :=
  Name.pascalLetters label.toList

/-- No label ends with the label of another verb. -/
theorem labels_suffixFree : ∀ row ∈ labels, ∀ other ∈ labels,
    (labelLetters row.2).isSuffixOf (labelLetters other.2) = true → row = other := by
  decide

/-- Every label has a last letter, and it is not that of the suffix. -/
theorem getLast?_labelLetters : ∀ row ∈ labels, labelLetters row.2 ≠ [] ∧
    (labelLetters row.2).getLast? ≠ Action.throwSuffix.toList.getLast? := by
  decide

/-- The label of a verb stands in the table. -/
theorem mem_labels_of_label? {verb label : String} (h : label? verb = some label) :
    (verb, label) ∈ labels := by
  obtain ⟨before, after, htable, -⟩ := List.lookup_eq_some_iff.1 h
  rw [htable]
  simp

end Verb

namespace Action

/-- The letters of the suffix, when there is one. -/
def suffixLetters (throws : Bool) : List Char :=
  if throws then throwSuffix.toList else []

/-- The name of an argument type is the model type, the label, perhaps the suffix, and "Args". -/
theorem exists_label_of_argNameOf {verb modelType name argName : String}
    (h : argNameOf verb modelType name = some argName) :
    ∃ label, (verb, label) ∈ Verb.labels ∧ argName.toList =
      modelType.toList ++ Verb.labelLetters label ++ suffixLetters (Text.occurs throwSuffix name) ++
        "Args".toList := by
  obtain ⟨label, hlabel, rfl⟩ := Option.map_eq_some_iff.1 h
  refine ⟨label, Verb.mem_labels_of_label? hlabel, ?_⟩
  cases Text.occurs throwSuffix name <;>
    simp [Verb.labelLetters, suffixLetters, Name.pascal]

/-- What ends with a label does not end with the suffix. -/
theorem append_label_ne_append_suffix {row : String × String} (hrow : row ∈ Verb.labels)
    (front rest : List Char) :
    front ++ Verb.labelLetters row.2 ≠ rest ++ throwSuffix.toList := by
  intro h
  obtain ⟨hlabel, hlast⟩ := Verb.getLast?_labelLetters row hrow
  have hends := congrArg List.getLast? h
  rw [List.getLast?_append_of_ne_nil _ hlabel,
    List.getLast?_append_of_ne_nil _ (by decide)] at hends
  exact hlast hends

/-- The suffix can be told from the label before it. -/
theorem suffix_unique {front rest : List Char} {row row' : String × String}
    (hrow : row ∈ Verb.labels) (hrow' : row' ∈ Verb.labels) {throws throws' : Bool}
    (h : front ++ Verb.labelLetters row.2 ++ suffixLetters throws =
      rest ++ Verb.labelLetters row'.2 ++ suffixLetters throws') : throws = throws' := by
  cases throws with
  | false =>
      cases throws' with
      | false => rfl
      | true =>
          rw [suffixLetters, suffixLetters, if_neg (by decide), if_pos rfl, List.append_nil] at h
          exact absurd h (append_label_ne_append_suffix hrow _ _)
  | true =>
      cases throws' with
      | false =>
          rw [suffixLetters, suffixLetters, if_pos rfl, if_neg (by decide), List.append_nil] at h
          exact absurd h.symm (append_label_ne_append_suffix hrow' _ _)
      | true => rfl

/-- The label can be told from the model type before it. -/
theorem label_unique {model model' : List Char} {row row' : String × String}
    (hrow : row ∈ Verb.labels) (hrow' : row' ∈ Verb.labels)
    (h : model ++ Verb.labelLetters row.2 = model' ++ Verb.labelLetters row'.2) :
    model = model' ∧ row = row' := by
  have hends : Verb.labelLetters row.2 <:+ Verb.labelLetters row'.2 ∨
      Verb.labelLetters row'.2 <:+ Verb.labelLetters row.2 :=
    List.suffix_or_suffix_of_suffix (h ▸ List.suffix_append _ _) (List.suffix_append _ _)
  obtain rfl : row = row' := by
    rcases hends with hends | hends
    · exact Verb.labels_suffixFree row hrow row' hrow' (List.isSuffixOf_iff_suffix.2 hends)
    · exact (Verb.labels_suffixFree row' hrow' row hrow (List.isSuffixOf_iff_suffix.2 hends)).symm
  exact ⟨List.append_cancel_right h, rfl⟩

variable {options options' : Options} {verbs verbs' : List String} {models models' : List Model}
  {source source' : Document.Operation} {a b : Action}

/-- The name of the argument type of an action is that of its verb, model type and name. -/
theorem argName_of_build (h : (build options verbs models source).outcome = .ok a) :
    a.argName = argNameOf a.verb a.modelType a.name := by
  obtain ⟨names, verb, -, -, rfl⟩ := build_eq_ok_iff.1 h
  rfl

/-- Two actions that have names of argument types have the same one exactly when they agree on the
model type, on the verb, and on whether the suffix is in their names. -/
theorem argName_eq_iff (ha : (build options verbs models source).outcome = .ok a)
    (hb : (build options' verbs' models' source').outcome = .ok b) {argName argName' : String}
    (hargName : a.argName = some argName) (hargName' : b.argName = some argName') :
    argName = argName' ↔ a.modelType = b.modelType ∧ a.verb = b.verb ∧
      Text.occurs throwSuffix a.name = Text.occurs throwSuffix b.name := by
  rw [argName_of_build ha] at hargName
  rw [argName_of_build hb] at hargName'
  constructor
  · rintro rfl
    obtain ⟨label, hlabel, htext⟩ := exists_label_of_argNameOf hargName
    obtain ⟨label', hlabel', htext'⟩ := exists_label_of_argNameOf hargName'
    -- From the end: "Args" is in both names, then comes the suffix, then the label.
    have hfront := List.append_cancel_right (htext.symm.trans htext')
    have hthrows := suffix_unique hlabel hlabel' hfront
    rw [hthrows] at hfront
    obtain ⟨hmodel, hrow⟩ := label_unique hlabel hlabel' (List.append_cancel_right hfront)
    exact ⟨String.toList_inj.1 hmodel, congrArg Prod.fst hrow, hthrows⟩
  · rintro ⟨hmodel, hverb, hthrows⟩
    rw [argNameOf, hmodel, hverb, hthrows, ← argNameOf, hargName'] at hargName
    exact (Option.some.inj hargName).symm

/-- The verb and the suffix may stand in front of the model or behind it. -/
theorem argName_eq_iff_of_suffix_in_front :
    ∃ a b, (build .default Verb.all [] (.plain "findUniqueUserOrThrow" "User")).outcome = .ok a ∧
      (build .default Verb.all [] (.plain "OrThrowUserfindUnique" "User")).outcome = .ok b ∧
      a.argName = some "UserFindUniqueOrThrowArgs" ∧
      b.argName = some "UserFindUniqueOrThrowArgs" ∧
      a.modelType = b.modelType ∧ a.verb = b.verb ∧
      Text.occurs throwSuffix a.name = Text.occurs throwSuffix b.name := by
  obtain ⟨a, ha, hcheck⟩ := Traced.exists_outcome_of_any
    (x := build .default Verb.all [] (.plain "findUniqueUserOrThrow" "User"))
    (p := fun a => decide (a.argName = some "UserFindUniqueOrThrowArgs")) (by decide)
  obtain ⟨b, hb, hcheck'⟩ := Traced.exists_outcome_of_any
    (x := build .default Verb.all [] (.plain "OrThrowUserfindUnique" "User"))
    (p := fun b => decide (b.argName = some "UserFindUniqueOrThrowArgs")) (by decide)
  have hargName := of_decide_eq_true hcheck
  have hargName' := of_decide_eq_true hcheck'
  exact ⟨a, b, ha, hb, hargName, hargName', (argName_eq_iff ha hb hargName hargName').1 rfl⟩

end Action

end ModelGraph
