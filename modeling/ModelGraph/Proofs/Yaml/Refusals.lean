import ModelGraph.Proofs.Walk
import ModelGraph.Yaml.Fault

/-!
# Refusals of texts

A text may be refused for what it says, or because its bytes are no text. Most readings know
nothing of bytes and are refused only for what the text says (`TextOnly`). Readings with a state are
described by triples (`Leads`): which property of the state a reading begins with, in which ways it
may be refused, and what comes with its result. Both are closed under the ways in which readings are
put together.
-/

namespace ModelGraph.Yaml

/-- A text is refused for what it says, and not because its bytes are no text. -/
def Refusal.OfText : Refusal → Prop
  | .malformed _ => True
  | .impossible _ => True
  | .undecodable _ => False

/-- A reading is refused only for what the text says. -/
def TextOnly (x : Except Refusal α) : Prop :=
  ∀ e, x = .error e → e.OfText

/-! ## Readings without a state -/

section Plain

variable {α β : Type} {x : Except Refusal α}

namespace TextOnly

theorem ok (a : α) : TextOnly (.ok a) := by
  intro e h
  cases h

theorem malformed (fault : Fault) :
    TextOnly (.error (.malformed fault) : Except Refusal α) := by
  intro e h
  cases h
  trivial

theorem impossible (value : Impossible) :
    TextOnly (.error (.impossible value) : Except Refusal α) := by
  intro e h
  cases h
  trivial

theorem bind {f : α → Except Refusal β} (hx : TextOnly x) (hf : ∀ a, TextOnly (f a)) :
    TextOnly (x >>= f) := by
  cases x with
  | error e =>
      intro e' h
      cases h
      exact hx e rfl
  | ok a => exact hf a

theorem map (hx : TextOnly x) (f : α → β) : TextOnly (x.map f) := by
  cases x with
  | error e =>
      intro e' h
      cases h
      exact hx e rfl
  | ok a => exact ok (f a)

theorem ite {p : Prop} [Decidable p] {y : Except Refusal α} (hx : TextOnly x) (hy : TextOnly y) :
    TextOnly (if p then x else y) := by
  split
  · exact hx
  · exact hy

theorem mapM {f : α → Except Refusal β} {items : List α} (hf : ∀ a, TextOnly (f a)) :
    TextOnly (items.mapM f) := by
  induction items with
  | nil => exact ok []
  | cons a rest ih =>
      rw [List.mapM_cons]
      exact (hf a).bind fun b => ih.bind fun bs => ok (b :: bs)

theorem walk {σ ρ : Type} {step : σ → List α → Except Refusal (Walk.Move σ ρ)}
    {finish : σ → Except Refusal ρ} {skip : Nat} {state : σ} {s : List α}
    (hstep : ∀ state s, TextOnly (step state s)) (hfinish : ∀ state, TextOnly (finish state)) :
    TextOnly (Walk.run step finish skip state s) :=
  fun _ h => Walk.error_of_run (fun state s => hstep state s) (fun state => hfinish state) h

end TextOnly

end Plain

/-! ## Readings with a state -/

section Triples

variable {σ α β : Type} {I : σ → Prop} {E : Refusal → Prop} {x : StateT σ (Except Refusal) α}

/-- A reading that begins in a state with a property is refused only in expected ways, and its
result comes with another property. -/
def Leads (I : σ → Prop) (E : Refusal → Prop) (x : StateT σ (Except Refusal) α)
    (J : α → σ → Prop) : Prop :=
  ∀ s, I s → (∀ e, x.run s = .error e → E e) ∧ ∀ a t, x.run s = .ok (a, t) → J a t

/-- A reading keeps a property of its state, and is refused only in expected ways. -/
abbrev Keeps (I : σ → Prop) (E : Refusal → Prop) (x : StateT σ (Except Refusal) α) : Prop :=
  Leads I E x fun _ => I

namespace Leads

variable {J : β → σ → Prop}

/-- A reading that always has a result. -/
theorem of_ok {J : α → σ → Prop} (h : ∀ s, I s → ∃ a t, x.run s = .ok (a, t) ∧ J a t) :
    Leads I E x J := by
  intro s hs
  obtain ⟨a, t, hrun, hresult⟩ := h s hs
  refine ⟨fun e h => ?_, fun b u h => ?_⟩
  · cases hrun.symm.trans h
  · cases hrun.symm.trans h
    exact hresult

/-- A reading that is always refused in the same way. -/
theorem of_error {J : α → σ → Prop} {e : Refusal} (h : ∀ s, I s → x.run s = .error e)
    (he : E e) : Leads I E x J := by
  intro s hs
  refine ⟨fun e' h' => ?_, fun a t h' => ?_⟩
  · cases (h s hs).symm.trans h'
    exact he
  · cases (h s hs).symm.trans h'

theorem mono {J K : α → σ → Prop} (hx : Leads I E x J) (h : ∀ a s, J a s → K a s) :
    Leads I E x K :=
  fun s hs => ⟨(hx s hs).1, fun a t hrun => h a t ((hx s hs).2 a t hrun)⟩

theorem pure (a : α) : Keeps I E (pure a) :=
  of_ok fun s hs => ⟨a, s, rfl, hs⟩

theorem throw {J : α → σ → Prop} {e : Refusal} (he : E e) :
    Leads I E (throw e : StateT σ (Except Refusal) α) J :=
  of_error (fun _ _ => rfl) he

theorem get : Keeps I E (get : StateT σ (Except Refusal) σ) :=
  of_ok fun s hs => ⟨s, s, rfl, hs⟩

theorem modify {f : σ → σ} (hf : ∀ s, I s → I (f s)) :
    Keeps I E (modify f : StateT σ (Except Refusal) Unit) :=
  of_ok fun s hs => ⟨(), f s, rfl, hf s hs⟩

theorem lift {y : Except Refusal α} (hy : ∀ e, y = .error e → E e) :
    Keeps I E (liftM y : StateT σ (Except Refusal) α) := by
  cases y with
  | error e => exact of_error (fun _ _ => rfl) (hy e rfl)
  | ok a => exact of_ok fun s hs => ⟨a, s, rfl, hs⟩

/-- What comes with the result of a first reading, the next one begins with. -/
theorem bind_result {I' : α → σ → Prop} {f : α → StateT σ (Except Refusal) β}
    (hx : Leads I E x I') (hf : ∀ a, Leads (I' a) E (f a) J) : Leads I E (x >>= f) J := by
  intro s hs
  rw [StateT.run_bind]
  cases hrun : x.run s with
  | error e =>
      refine ⟨fun e' h => ?_, fun b t h => ?_⟩
      · cases h
        exact (hx s hs).1 e hrun
      · cases h
  | ok found => exact hf found.1 found.2 ((hx s hs).2 _ _ hrun)

theorem bind {f : α → StateT σ (Except Refusal) β} (hx : Keeps I E x)
    (hf : ∀ a, Leads I E (f a) J) : Leads I E (x >>= f) J :=
  hx.bind_result hf

theorem ite {J : α → σ → Prop} {p : Prop} [Decidable p] {y : StateT σ (Except Refusal) α}
    (hx : Leads I E x J) (hy : Leads I E y J) : Leads I E (if p then x else y) J := by
  split
  · exact hx
  · exact hy

/-- A reading behind a check that may refuse the text. -/
theorem check {J : α → σ → Prop} {p : Prop} [Decidable p] {y : StateT σ (Except Refusal) PUnit}
    (hy : Keeps I E y) (hx : Leads I E x J) : Leads I E (if p then y >>= fun _ => x else x) J :=
  .ite (.bind hy fun _ => hx) hx

theorem mapM {f : α → StateT σ (Except Refusal) β} {items : List α} (hf : ∀ a, Keeps I E (f a)) :
    Keeps I E (items.mapM f) := by
  induction items with
  | nil => exact pure []
  | cons a rest ih =>
      rw [List.mapM_cons]
      exact (hf a).bind fun b => ih.bind fun bs => pure (b :: bs)

theorem forM {f : α → StateT σ (Except Refusal) PUnit} {items : List α}
    (hf : ∀ a, Keeps I E (f a)) : Keeps I E (items.forM f) := by
  induction items with
  | nil => exact pure PUnit.unit
  | cons a rest ih => exact (hf a).bind fun _ => ih

theorem foldlM {f : β → α → StateT σ (Except Refusal) β} {items : List α} {b : β}
    (hf : ∀ b a, Keeps I E (f b a)) : Keeps I E (items.foldlM f b) := by
  induction items generalizing b with
  | nil => exact pure b
  | cons a rest ih =>
      rw [List.foldlM_cons]
      exact (hf b a).bind fun b => ih

theorem findM? {f : α → StateT σ (Except Refusal) Bool} {items : List α}
    (hf : ∀ a, Keeps I E (f a)) : Keeps I E (items.findM? f) := by
  induction items with
  | nil => exact pure none
  | cons a rest ih =>
      refine (hf a).bind fun found => ?_
      cases found with
      | true => exact pure (some a)
      | false => exact ih

end Leads

end Triples

end ModelGraph.Yaml
