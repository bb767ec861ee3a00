import Mathlib.Data.String.Basic
import ModelGraph.Log.Console
import ModelGraph.Proofs.Log.Line

/-!
# Setting up a console again and again

A console may be set up at any time and any number of times, and silent handlers may be added in
between. What matters of a history is the last set-up in it, with what the output was then
(`lastSetUp?`): it fixes the one handler that writes and the level that is let through. That is what
each step keeps (`follows_step`), so it holds after every history (`follows_after`). Hence no message
is written twice, and none is lost that should have been written
(`messages_neither_lost_nor_doubled`).
-/

namespace ModelGraph.Log

/-! ## Single writings -/

/-- Whether a handler writes lines. -/
def Handler.isLines : Handler → Bool
  | .silent => false
  | .lines _ _ => true

/-- What a handler writes on a message, writing by writing. -/
def Handler.writings (level : Level) (message : String) : Handler → List String
  | .silent => []
  | .lines least painter =>
    if least ≤ level then
      match painter.line (Console.plainEvent level message) with
      | .ok line => [line ++ "\n"]
      | .error _ => []
    else []

namespace Console

/-- What a console writes on a message, writing by writing. -/
def writings (c : Console) (level : Level) (message : String) : List String :=
  if 0 < level ∧ c.least ≤ level then
    if c.handlers.isEmpty then
      if Level.warning ≤ level then [message ++ "\n"] else []
    else c.handlers.flatMap (Handler.writings level message)
  else []

/-- The messages of a step, each with its level. -/
def Step.messages : Step → List (Level × String)
  | .setUp _ _ => []
  | .setTerminal _ => []
  | .addSilent => []
  | .log level message => [(level, message)]
  | .success message => [(Level.info, Log.success message)]
  | .progress message => [(Level.info, Log.progress message)]
  | .heading title => (sectionLines title).map fun line => (Level.info, line)

theorem join_flatMap {α : Type} (f : α → List String) (items : List α) :
    String.join (items.flatMap f) = String.join (items.map fun a => String.join (f a)) := by
  induction items with
  | nil => rfl
  | cons a rest ih => rw [List.flatMap_cons, List.map_cons, String.join_append, String.join_cons, ih]

theorem join_handlerWritings (level : Level) (message : String) (h : Handler) :
    String.join (h.writings level message) = handlerText level message h := by
  cases h with
  | silent => rfl
  | lines least painter =>
      simp only [Handler.writings, handlerText]
      split
      · cases painter.line (plainEvent level message) with
        | ok line => simp
        | error refusal => simp
      · simp

/-- The text that a console writes on a message is made of its writings. -/
theorem join_writings (c : Console) (level : Level) (message : String) :
    String.join (c.writings level message) = c.messageText level message := by
  unfold writings messageText bareText
  split
  · split
    · split <;> simp
    · rw [join_flatMap]
      simp only [join_handlerWritings]
  · simp

/-- What is written in a step are the writings on its messages. -/
theorem text_step (c : Console) (s : Step) :
    (c.step s).2 = String.join (s.messages.flatMap fun r => c.writings r.1 r.2) := by
  rw [join_flatMap]
  simp only [join_writings]
  cases s with
  | setUp least colours => simp [step, Step.messages]
  | setTerminal terminal => simp [step, Step.messages]
  | addSilent => simp [step, Step.messages]
  | log level message => simp [step, Step.messages]
  | success message => simp [step, infoText, Step.messages]
  | progress message => simp [step, infoText, Step.messages]
  | heading title => simp [step, infoText, Step.messages, Function.comp_def]

/-! ## Histories -/

/-- The console after the steps of a history. -/
def after (c : Console) (history : List Step) : Console :=
  history.foldl (fun c s => (c.step s).1) c

/-- A run gives every step on the console that the steps before it have led to. -/
theorem run_append_cons (c : Console) (history : List Step) (next : Step) (later : List Step) :
    (c.run (history ++ next :: later))[history.length]? = some ((c.after history).step next) := by
  induction history generalizing c with
  | nil => rfl
  | cons s rest ih =>
      rw [List.cons_append, run, List.length_cons, List.getElem?_cons_succ]
      exact ih (c.step s).1

/-- The last set-up of a history that begins with the given output: its level, and whether lines
are painted from then on. -/
def lastSetUp? (terminal : Bool) : List Step → Option (Level × Bool)
  | [] => none
  | .setUp least colours :: rest => (lastSetUp? terminal rest).or (some (least, colours && terminal))
  | .setTerminal terminal :: rest => lastSetUp? terminal rest
  | _ :: rest => lastSetUp? terminal rest

/-- A console is as a last set-up made it, up to silent handlers behind. -/
def Follows (c : Console) : Option (Level × Bool) → Prop
  | none => c.least = Level.warning ∧ ∀ h ∈ c.handlers, h = .silent
  | some (least, coloured) => c.least = least ∧
    ∃ silents, (∀ h ∈ silents, h = .silent) ∧
      c.handlers = .lines least ⟨.default, coloured⟩ :: silents

/-- The last set-up after one more step. -/
def remembered (c : Console) (last : Option (Level × Bool)) : Step → Option (Level × Bool)
  | .setUp least colours => some (least, colours && c.terminal)
  | _ => last

theorem Follows.setTerminal {c : Console} {last : Option (Level × Bool)} (h : c.Follows last)
    (terminal : Bool) : Follows { c with terminal } last := by
  cases last <;> exact h

theorem Follows.addSilent {c : Console} {last : Option (Level × Bool)} (h : c.Follows last) :
    Follows { c with handlers := c.handlers ++ [.silent] } last := by
  cases last with
  | none =>
      obtain ⟨hleast, hsilent⟩ := h
      refine ⟨hleast, fun handler hmem => ?_⟩
      rcases List.mem_append.1 hmem with hold | hnew
      · exact hsilent handler hold
      · exact List.mem_singleton.1 hnew
  | some setting =>
      obtain ⟨hleast, silents, hsilent, hhandlers⟩ := h
      refine ⟨hleast, silents ++ [.silent], fun handler hmem => ?_, ?_⟩
      · rcases List.mem_append.1 hmem with hold | hnew
        · exact hsilent handler hold
        · exact List.mem_singleton.1 hnew
      · show c.handlers ++ [.silent] = _
        rw [hhandlers, List.cons_append]

/-- A console that was just set up is as the set-up made it. -/
theorem follows_setUp (c : Console) (least : Level) (colours : Bool) :
    Follows (c.setUp least colours) (some (least, colours && c.terminal)) :=
  ⟨rfl, [], fun _ hmem => absurd hmem List.not_mem_nil, rfl⟩

/-- Each step keeps a console as the last set-up made it. -/
theorem follows_step {c : Console} {last : Option (Level × Bool)} (h : c.Follows last) (s : Step) :
    (c.step s).1.Follows (remembered c last s) := by
  cases s with
  | setUp least colours => exact follows_setUp c least colours
  | setTerminal terminal => exact h.setTerminal terminal
  | addSilent => exact h.addSilent
  | log level message => exact h
  | success message => exact h
  | progress message => exact h
  | heading title => exact h

/-- The last set-up of a history is known from its first step and the others. -/
theorem lastSetUp?_cons (c : Console) (last : Option (Level × Bool)) (s : Step)
    (rest : List Step) :
    (lastSetUp? c.terminal (s :: rest)).or last =
      (lastSetUp? (c.step s).1.terminal rest).or (remembered c last s) := by
  cases s with
  | setUp least colours => exact Option.or_assoc
  | setTerminal terminal => rfl
  | addSilent => rfl
  | log level message => rfl
  | success message => rfl
  | progress message => rfl
  | heading title => rfl

/-- After a history a console is as the last set-up made it. -/
theorem follows_after {c : Console} {last : Option (Level × Bool)} (h : c.Follows last)
    (history : List Step) :
    (c.after history).Follows ((lastSetUp? c.terminal history).or last) := by
  -- The terminal of the console is the one that `lastSetUp?` carries along.
  induction history generalizing c last with
  | nil => exact h
  | cons s rest ih =>
      rw [lastSetUp?_cons]
      exact ih (follows_step h s)

theorem follows_initial (terminal : Bool) : (initial terminal).Follows none :=
  ⟨rfl, fun _ hmem => absurd hmem List.not_mem_nil⟩

/-! ## What is written -/

/-- A message as a console shows it that is set up. -/
def shown (coloured : Bool) (level : Level) (message : String) : String :=
  (⟨.default, coloured⟩ : Painter).finish (Level.name level) message
    (Level.name level ++ ": " ++ message) ++ "\n"

theorem flatMap_writings_silent {handlers : List Handler} (h : ∀ x ∈ handlers, x = .silent)
    (level : Level) (message : String) :
    handlers.flatMap (Handler.writings level message) = [] := by
  rw [List.flatMap_eq_nil_iff]
  intro x hx
  rw [h x hx]
  rfl

theorem writings_lines (coloured : Bool) (least level : Level) (message : String) :
    Handler.writings level message (.lines least ⟨.default, coloured⟩) =
      if least ≤ level then [shown coloured level message] else [] := by
  have hmessage : (plainEvent level message).message = .ok message := rfl
  simp only [Handler.writings, Painter.line_default coloured hmessage]
  rfl

/-- A console that was set up writes a message once if its level is let through. -/
theorem Follows.writings_some {c : Console} {least : Level} {coloured : Bool}
    (h : c.Follows (some (least, coloured))) (level : Level) (message : String) :
    c.writings level message =
      if 0 < level ∧ least ≤ level then [shown coloured level message] else [] := by
  obtain ⟨rfl, silents, hsilent, hhandlers⟩ := h
  unfold writings
  rw [hhandlers, List.flatMap_cons, flatMap_writings_silent hsilent, List.append_nil,
    writings_lines]
  split
  · rename_i hpasses
    rw [if_pos hpasses.2]
    rfl
  · rfl

/-- A console that was never set up writes warnings and errors, until it has a handler. -/
theorem Follows.writings_none {c : Console} (h : c.Follows none) (level : Level)
    (message : String) :
    c.writings level message =
      if c.handlers = [] ∧ Level.warning ≤ level then [message ++ "\n"] else [] := by
  obtain ⟨hleast, hsilent⟩ := h
  have hpositive : Level.warning ≤ level → 0 < level := fun h => Int.lt_of_lt_of_le (by decide) h
  unfold writings
  rw [hleast, flatMap_writings_silent hsilent]
  by_cases hempty : c.handlers = [] <;> by_cases hlevel : Level.warning ≤ level <;>
    simp [hempty, hlevel, hpositive]

theorem Follows.countP_isLines_le {c : Console} {last : Option (Level × Bool)}
    (h : c.Follows last) : c.handlers.countP Handler.isLines ≤ 1 := by
  have hnone : ∀ {handlers : List Handler}, (∀ x ∈ handlers, x = .silent) →
      handlers.countP Handler.isLines = 0 := fun hsilent =>
    List.countP_eq_zero.2 fun x hx => by
      rw [hsilent x hx]
      decide
  cases last with
  | none =>
      rw [hnone h.2]
      exact Nat.zero_le 1
  | some setting =>
      obtain ⟨-, silents, hsilent, hhandlers⟩ := h
      rw [hhandlers, List.countP_cons, hnone hsilent]
      exact Nat.le_refl 1

/-- Of two set-ups the second one counts. Without a terminal nothing is painted any more. -/
example (title : String) : lastSetUp? true [.setUp Level.info true, .setTerminal false,
    .addSilent, .setUp Level.warning true, .heading title] = some (Level.warning, false) := rfl

end Console

end ModelGraph.Log
