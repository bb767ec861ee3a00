import ModelGraph.Proofs.Action.Verb

/-!
# The most specific verb

The first listed verb that occurs in a name is taken, whatever other verbs occur in it. This finds
no verb that is part of another one in the name, whatever the name, exactly when each verb is listed
behind those that it is part of (`containingFirst_iff`). Read `verb_found_is_most_specific` for
what is found, also among the verbs of the client.
-/

namespace ModelGraph.Verb

/-- The text `v` stands in `w` and is not the whole of it. -/
def PartOf (v w : String) : Prop :=
  v ≠ w ∧ Text.occurs v w = true

instance (v w : String) : Decidable (PartOf v w) :=
  inferInstanceAs (Decidable (_ ∧ _))

/-- Every verb is listed behind the verbs that it is part of. -/
def ContainingFirst (verbs : List String) : Prop :=
  ∀ v ∈ verbs, ∀ w ∈ verbs, PartOf v w → w ∈ earlier verbs v

instance (verbs : List String) : Decidable (ContainingFirst verbs) :=
  inferInstanceAs (Decidable (∀ v ∈ verbs, ∀ w ∈ verbs, _))

/-- A listed verb occurs in a name and is part of no other listed verb that does. -/
structure MostSpecific (verbs : List String) (name verb : String) : Prop where
  listed : verb ∈ verbs
  occurs : Text.occurs verb name = true
  not_part : ∀ w ∈ verbs, Text.occurs w name = true → ¬ PartOf verb w

variable {verbs : List String} {v w name : String}

/-- A verb that is found is listed, and it occurs in the name. -/
theorem mem_and_occurs_of_find? (h : find? verbs name = some v) :
    v ∈ verbs ∧ Text.occurs v name = true :=
  ⟨List.mem_of_find?_eq_some h, by simpa using List.find?_some h⟩

/-- Of two listed verbs one is listed before the other. -/
theorem mem_earlier_or_mem_earlier (hv : v ∈ verbs) (hw : w ∈ verbs) (hne : v ≠ w) :
    v ∈ earlier verbs w ∨ w ∈ earlier verbs v := by
  unfold earlier
  induction verbs with
  | nil => cases hv
  | cons u verbs ih =>
      by_cases hu : u = v
      · exact Or.inl (by simp [hu, hne])
      · by_cases hu' : u = w
        · exact Or.inr (by simp [hu', Ne.symm hne])
        · have hv : v ∈ verbs := by simpa [Ne.symm hu] using hv
          have hw : w ∈ verbs := by simpa [Ne.symm hu'] using hw
          simpa [hu, hu', Ne.symm hu, Ne.symm hu'] using ih hv hw

/-- A verb that is part of another one is listed behind it, if that one is the first listed verb to
occur in itself. -/
theorem mem_earlier_of_partOf (hv : v ∈ verbs) (hw : w ∈ verbs) (hpart : PartOf v w)
    (hearlier : ∀ u ∈ earlier verbs w, Text.occurs u w = false) : w ∈ earlier verbs v := by
  refine (mem_earlier_or_mem_earlier hv hw hpart.1).resolve_left ?_
  intro hmem
  have hnot := hearlier v hmem
  rw [hpart.2] at hnot
  cases hnot

/-- The verbs of the client are listed behind those that they are part of. -/
theorem containingFirst_all : ContainingFirst all := by
  intro v hv w hw hpart
  exact mem_earlier_of_partOf hv hw hpart (not_occurs_of_earlier w hw)

/-- Where each verb is listed behind those that it is part of, a verb that is found is part of no
other one in the name: that one would have been found before it. -/
theorem ContainingFirst.mostSpecific (h : ContainingFirst verbs)
    (hfound : find? verbs name = some v) : MostSpecific verbs name v := by
  obtain ⟨hv, hoccurs⟩ := mem_and_occurs_of_find? hfound
  obtain ⟨-, hearlier⟩ := (find?_eq_some_iff hv).1 hfound
  refine ⟨hv, hoccurs, ?_⟩
  intro w hw hw' hpart
  have hnot := hearlier w (h v hv w hw hpart)
  rw [hw'] at hnot
  cases hnot

/-- A listed verb is found in itself, if only most specific verbs are ever found. -/
theorem find?_self (h : ∀ name v, find? verbs name = some v → MostSpecific verbs name v)
    (hw : w ∈ verbs) : find? verbs w = some w := by
  have hself : Text.occurs w w = true := Text.occurs_iff.2 List.infix_rfl
  obtain ⟨found, hfound⟩ := exists_find? hw hself
  have hspecific := h w found hfound
  by_cases hsame : found = w
  · rw [hfound, hsame]
  · exact absurd ⟨hsame, hspecific.occurs⟩ (hspecific.not_part w hw hself)

/-- Only most specific verbs are ever found exactly when each verb is listed behind those that it
is part of. -/
theorem containingFirst_iff :
    ContainingFirst verbs ↔ ∀ name v, find? verbs name = some v → MostSpecific verbs name v := by
  constructor
  · intro h name v hfound
    exact h.mostSpecific hfound
  · intro h v hv w hw hpart
    obtain ⟨-, hearlier⟩ := (find?_eq_some_iff hw).1 (find?_self h hw)
    exact mem_earlier_of_partOf hv hw hpart hearlier

/-- No verb is found exactly in the names that no listed verb occurs in. In every other name a verb
is found, and it is part of no other listed verb there, for all names exactly when each verb is
listed behind those that it is part of. The verbs of the client are listed so: none of them is found
in a name that a longer one with the verb in it occurs in. -/
theorem verb_found_is_most_specific (verbs : List String) :
    (∀ name, find? verbs name = none ↔ ∀ v ∈ verbs, Text.occurs v name = false) ∧
    (ContainingFirst verbs ↔ ∀ name, (∃ v ∈ verbs, Text.occurs v name = true) →
      ∃ verb, find? verbs name = some verb ∧ MostSpecific verbs name verb) ∧
    ContainingFirst all ∧
    ∀ name verb, find? all name = some verb →
      ∀ w ∈ all, w ≠ verb → Text.occurs verb w = true → Text.occurs w name = false := by
  refine ⟨fun name => find?_eq_none_iff, ?_, containingFirst_all, ?_⟩
  · rw [containingFirst_iff]
    constructor
    · intro h name hsome
      obtain ⟨v, hv, hoccurs⟩ := hsome
      obtain ⟨verb, hfound⟩ := exists_find? hv hoccurs
      exact ⟨verb, hfound, h name verb hfound⟩
    · intro h name v hfound
      obtain ⟨verb, hverb, hspecific⟩ := h name ⟨v, mem_and_occurs_of_find? hfound⟩
      rw [hfound] at hverb
      cases hverb
      exact hspecific
  · intro name verb hfound w hw hne hpart
    by_contra hoccurs
    rw [Bool.not_eq_false] at hoccurs
    exact (containingFirst_all.mostSpecific hfound).not_part w hw hoccurs ⟨Ne.symm hne, hpart⟩

/-- Two verbs occur in the name of a creation that gives its records, and the longer one is found. In
the name of a query without a verb none is. -/
theorem verb_found_of_createManyAndReturn :
    Text.occurs "createMany" "createManyAndReturnUser" = true ∧
      find? all "createManyAndReturnUser" = some "createManyAndReturn" ∧
      MostSpecific all "createManyAndReturnUser" "createManyAndReturn" ∧
      find? all "obtainUser" = none := by
  obtain ⟨hnone, hspecific, hall, -⟩ := verb_found_is_most_specific all
  have hfound : find? all "createManyAndReturnUser" = some "createManyAndReturn" := by decide
  obtain ⟨verb, hverb, hmost⟩ := hspecific.1 hall "createManyAndReturnUser"
    ⟨"createMany", by decide, by decide⟩
  obtain rfl : verb = "createManyAndReturn" := Option.some.inj (hverb.symm.trans hfound)
  exact ⟨by decide, hfound, hmost, (hnone "obtainUser").2 (by decide)⟩

/-- The order counts: a verb that is listed before a longer one hides it. -/
example : ¬ ContainingFirst ["createMany", "createManyAndReturn"] ∧
    find? ["createMany", "createManyAndReturn"] "createManyAndReturnUser" = some "createMany" := by
  decide

end ModelGraph.Verb
