import Mathlib.Data.List.Infix
import ModelGraph.Proofs.Log.FirstFailure

/-!
# What traced computations log

A computation of two steps logs what its first step logs and then, if the first step has a result,
what the second one logs. Most steps either log some notes on their result or fail without a word
(`Logs`). Going through a list with such steps logs the notes on the results up to the first failure
(`finished`), which is what `records_each` says.
-/

namespace ModelGraph

/-! ## What a message begins with -/

namespace Log.Record

/-- The message of a record begins with a text. -/
def Begins (r : Record) (mark : String) : Prop :=
  mark.toList <+: r.message.toList

instance (r : Record) (mark : String) : Decidable (r.Begins mark) :=
  inferInstanceAs (Decidable (_ <+: _))

/-- What a message begins with is seen at its front if that is long enough. -/
theorem begins_iff {r : Record} {front mark : String} (h : ∃ rest, r.message = front ++ rest)
    (hlength : mark.toList.length ≤ front.toList.length) :
    r.Begins mark ↔ mark.toList <+: front.toList := by
  obtain ⟨rest, hmessage⟩ := h
  rw [Begins, hmessage, String.toList_append, List.isPrefix_append_of_length hlength]

end Log.Record

/-! ## Traced computations -/

namespace Traced

variable {ε α β : Type}

@[simp] theorem records_pure (a : α) : (pure a : Traced ε α).records = [] := rfl

@[simp] theorem records_log_bind (source : Log.Source) (level : Log.Level) (message : String)
    (f : Unit → Traced ε β) :
    (log source level message >>= f).records = ⟨source, level, message⟩ :: (f ()).records := rfl

@[simp] theorem records_logAll_bind (source : Log.Source) (level : Log.Level)
    (messages : List String) (f : Unit → Traced ε β) :
    (logAll source level messages >>= f).records =
      (messages.map fun message => ⟨source, level, message⟩) ++ (f ()).records := rfl

/-- After a result the second step goes on with it. -/
theorem records_bind_of_ok {x : Traced ε α} {f : α → Traced ε β} {a : α}
    (h : x.outcome = .ok a) : (x >>= f).records = x.records ++ (f a).records := by
  show (andThen x f).records = _
  rw [andThen, h]

/-- After a failure there is no second step. -/
theorem records_bind_of_error {x : Traced ε α} {f : α → Traced ε β} {e : ε}
    (h : x.outcome = .error e) : (x >>= f).records = x.records := by
  show (andThen x f).records = _
  rw [andThen, h]

/-- What is made of a result at the end changes no records. -/
theorem records_bind_pure (x : Traced ε α) (g : α → β) :
    (x >>= fun a => pure (g a)).records = x.records := by
  cases houtcome : x.outcome with
  | error e => exact records_bind_of_error houtcome
  | ok a => rw [records_bind_of_ok houtcome, records_pure, List.append_nil]

/-! ## Steps that note their results -/

/-- A step logs the notes on its result, and nothing when it fails. -/
def Logs (x : Traced ε α) (notes : α → List Log.Record) : Prop :=
  x.records = (x.outcome.toOption.map notes).getD []

namespace Logs

variable {x : Traced ε α} {notes : α → List Log.Record}

theorem records_of_ok (h : x.Logs notes) {a : α} (ha : x.outcome = .ok a) :
    x.records = notes a := by
  rw [h, ha]
  rfl

theorem records_of_error (h : x.Logs notes) {e : ε} (he : x.outcome = .error e) :
    x.records = [] := by
  rw [h, he]
  rfl

/-- A step that logs nothing notes nothing of its result. -/
theorem silent (h : x.records = []) : x.Logs fun _ => [] := by
  rw [Logs, h]
  cases x.outcome <;> rfl

/-- A step behind one that logs nothing is alone in what it notes. -/
theorem bind {f : α → Traced ε β} {notes : β → List Log.Record} (hx : x.records = [])
    (hf : ∀ a, x.outcome = .ok a → (f a).Logs notes) : (x >>= f).Logs notes := by
  cases houtcome : x.outcome with
  | error e =>
      rw [Logs, records_bind_of_error houtcome, outcome_bind, hx, houtcome]
      rfl
  | ok a =>
      rw [Logs, records_bind_of_ok houtcome, outcome_bind, hx, houtcome]
      exact hf a houtcome

end Logs

/-! ## Going through a list -/

/-- The results of `f` on the items of a list up to the first item on which it fails. -/
def finished (f : α → Traced ε β) : List α → List β
  | [] => []
  | a :: rest =>
    match (f a).outcome with
    | .ok b => b :: finished f rest
    | .error _ => []

variable {f : α → Traced ε β}

theorem finished_cons_of_ok {a : α} {b : β} (h : (f a).outcome = .ok b) (rest : List α) :
    finished f (a :: rest) = b :: finished f rest := by
  rw [finished, h]

theorem finished_cons_of_error {a : α} {e : ε} (h : (f a).outcome = .error e) (rest : List α) :
    finished f (a :: rest) = [] := by
  rw [finished, h]

/-- Without a failure all results are there. -/
theorem finished_of_forall₂ {items : List α} {results : List β}
    (h : List.Forall₂ (fun a b => (f a).outcome = .ok b) items results) :
    finished f items = results := by
  induction h with
  | nil => rfl
  | cons hfirst _ ih => rw [finished_cons_of_ok hfirst, ih]

/-- Behind items without a failure the others have their turn. -/
theorem finished_append_of_forall₂ {items more : List α} {results : List β}
    (h : List.Forall₂ (fun a b => (f a).outcome = .ok b) items results) :
    finished f (items ++ more) = results ++ finished f more := by
  induction h with
  | nil => rfl
  | cons hfirst _ ih => rw [List.cons_append, finished_cons_of_ok hfirst, ih, List.cons_append]

/-- Behind an item that fails the others have no turn. -/
theorem finished_append_of_fails {items : List α} (h : ∃ a ∈ items, (f a).Fails)
    (more : List α) : finished f (items ++ more) = finished f items := by
  induction items with
  | nil => simp at h
  | cons a rest ih =>
      rw [List.cons_append]
      cases houtcome : (f a).outcome with
      | error e => rw [finished_cons_of_error houtcome, finished_cons_of_error houtcome]
      | ok b =>
          have hrest : ∃ a ∈ rest, (f a).Fails := by
            obtain ⟨c, hmem, hc⟩ := h
            rcases List.mem_cons.1 hmem with rfl | hmem
            · exact absurd houtcome (hc.outcome_ne_ok b)
            · exact ⟨c, hmem, hc⟩
          rw [finished_cons_of_ok houtcome, finished_cons_of_ok houtcome, ih hrest]

/-- Going through a list with steps that note their results logs the notes on the results up to the
first failure. -/
theorem records_each {notes : β → List Log.Record} (h : ∀ a, (f a).Logs notes) (items : List α) :
    (each f items).records = (finished f items).flatMap notes := by
  induction items with
  | nil => rfl
  | cons a rest ih =>
      show (f a >>= fun b => each f rest >>= fun bs => pure (b :: bs)).records = _
      cases houtcome : (f a).outcome with
      | error e =>
          rw [records_bind_of_error houtcome, (h a).records_of_error houtcome,
            finished_cons_of_error houtcome]
          rfl
      | ok b =>
          rw [records_bind_of_ok houtcome, (h a).records_of_ok houtcome,
            finished_cons_of_ok houtcome, List.flatMap_cons, records_bind_pure, ih]

/-- Going through a list with steps that log nothing logs nothing. -/
theorem records_each_of_silent (h : ∀ a, (f a).records = []) (items : List α) :
    (each f items).records = [] := by
  rw [records_each fun a => Logs.silent (h a), List.flatMap_eq_nil_iff]
  exact fun _ _ => rfl

variable {γ : Type} {g : List β → List β → γ}

/-- Going through one list after the other logs like going through both at once. -/
theorem records_each_each {notes : β → List Log.Record} (h : ∀ a, (f a).Logs notes)
    (items more : List α) :
    (each f items >>= fun bs => each f more >>= fun cs => pure (g bs cs)).records =
      (finished f (items ++ more)).flatMap notes := by
  cases houtcome : (each f items).outcome with
  | error e =>
      rw [records_bind_of_error houtcome, records_each h,
        finished_append_of_fails (fails_each_iff.1 ⟨e, houtcome⟩)]
  | ok bs =>
      have hitems := outcome_each_eq_ok_iff.1 houtcome
      rw [records_bind_of_ok houtcome, records_bind_pure, records_each h, records_each h,
        finished_of_forall₂ hitems, finished_append_of_forall₂ hitems, List.flatMap_append]

/-- Going through one list after the other fails when an item of either one fails. -/
theorem fails_each_each_iff {items more : List α} :
    (each f items >>= fun bs => each f more >>= fun cs => pure (g bs cs)).Fails ↔
      ∃ a ∈ items ++ more, (f a).Fails := by
  have hmore : ∀ bs, (each f more >>= fun cs => pure (g bs cs)).failure? =
      (each f more).failure?.or none := fun bs => failure?_bind fun cs => rfl
  rw [fails_bind_iff hmore, Option.or_none, ← fails_iff, fails_each_iff, fails_each_iff]
  simp only [List.mem_append, or_and_right, exists_or]

end Traced

end ModelGraph
