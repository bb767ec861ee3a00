import ModelGraph.Proofs.Yaml.Refusals
import ModelGraph.Yaml.Lexer

/-!
# Refusals of tokens

The readers of tokens are refused only for what the text says (`Lexer.textOnly_token`). What shows up
behind a text is handed on as it is: the tokens of a text are refused for that, or for what the text
says (`Tokens.expected_of_before`), and it is never passed over (`Tokens.refusal_before_ne_none`).
-/

namespace ModelGraph.Yaml

variable {α : Type}

/-! ## Names, tags and directives -/

theorem textOnly_anchorName (s : List Char) : TextOnly (anchorName s) := by
  dsimp only [anchorName]
  split
  · exact .malformed _
  · exact .ok _

theorem textOnly_tagBytes (s : List Char) : TextOnly (tagBytes s) := by
  refine .walk (fun bytes s => ?_) fun bytes => .ok _
  split
  · split
    · exact .ok _
    · exact .malformed _
  · exact .malformed _
  · exact .ok _

theorem textOnly_tagText (s : List Char) : TextOnly (tagText s) := by
  refine .bind (.walk (fun found s => ?_) fun found => .ok _) fun (text, taken) => ?_
  · split
    · refine .bind (textOnly_tagBytes _) fun (bytes, taken) => ?_
      dsimp only
      split
      · exact .ok _
      · exact .malformed _
    · split
      · exact .ok _
      · exact .ok _
    · exact .ok _
  · dsimp only
    split
    · exact .malformed _
    · exact .ok _

theorem textOnly_tagHandle (s : List Char) : TextOnly (tagHandle s) := by
  unfold tagHandle
  split
  · split
    · exact .ok _
    · dsimp only
      split
      · exact .ok _
      · exact .malformed _
  · exact .malformed _

theorem textOnly_verbatimTag (s : List Char) : TextOnly (verbatimTag s) := by
  refine .bind (textOnly_tagText _) fun (text, taken) => ?_
  dsimp only
  split
  · exact .ok _
  · exact .malformed _

theorem textOnly_shortTag (s : List Char) : TextOnly (shortTag s) := by
  have hrest : ∀ found : String × Nat, TextOnly (do
      let part ← tagText (s.drop found.2)
      return ((⟨some found.1, String.ofList part.1⟩ : Tag), found.2 + part.2)) := by
    intro found
    exact .bind (textOnly_tagText _) fun _ => .ok _
  unfold shortTag
  dsimp only
  split
  · exact .bind (textOnly_tagHandle s) hrest
  · exact .bind (.ok _) hrest

theorem textOnly_readTag (s : List Char) : TextOnly (readTag s) := by
  have hrest : ∀ found : Tag × Nat, TextOnly
      (if atBlank (s.drop found.2) then pure found else throw (.malformed .badTag)) := by
    intro found
    split
    · exact .ok _
    · exact .malformed _
  unfold readTag
  dsimp only
  split
  · exact .bind (textOnly_verbatimTag s) hrest
  · split
    · exact .bind (.ok _) hrest
    · exact .bind (textOnly_shortTag s) hrest

theorem textOnly_versionPart (s : List Char) : TextOnly (versionPart s) := by
  unfold versionPart
  dsimp only
  split
  · exact .malformed _
  · split
    · exact .impossible _
    · exact .ok _

theorem textOnly_versionDirective (s : List Char) : TextOnly (versionDirective s) := by
  refine .bind (textOnly_versionPart _) fun (major, rest) => ?_
  dsimp only
  split
  · refine .bind (textOnly_versionPart _) fun (_, rest) => ?_
    dsimp only
    split
    · exact .ok _
    · exact .malformed _
  · exact .malformed _

theorem textOnly_handleDirective (s : List Char) : TextOnly (handleDirective s) := by
  refine .bind (textOnly_tagHandle _) fun (name, taken) => ?_
  dsimp only
  split
  · exact .malformed _
  · refine .bind (textOnly_tagText _) fun (meaning, taken) => ?_
    dsimp only
    split
    · exact .malformed _
    · exact .ok _

theorem textOnly_readDirective (s : List Char) : TextOnly (readDirective s) := by
  have hrest : ∀ found : Directive × List Char, TextOnly (do
      if !atLineEnd (afterComment found.2) then throw (.malformed .badDirective)
      return (found.1, s.length - ((afterComment found.2).drop 1).length)) := by
    intro found
    dsimp only
    split
    · exact .malformed _
    · exact .ok _
  unfold readDirective
  dsimp only
  split
  · exact .malformed _
  · split
    · exact .bind (textOnly_versionDirective _) hrest
    · split
      · exact .bind (textOnly_handleDirective _) hrest
      · exact .bind (.ok _) hrest

/-! ## Scalars -/

theorem textOnly_breaksInQuotes (s : List Char) : TextOnly (breaksInQuotes s) := by
  refine .walk (fun state s => ?_) fun state => .ok _
  dsimp only
  split
  · exact .ok _
  · split
    · exact .malformed _
    · split
      · exact .ok _
      · split <;> exact .ok _

theorem textOnly_escapeCode (width : Nat) (s : List Char) : TextOnly (escapeCode width s) := by
  dsimp only [escapeCode]
  split
  · exact .ok _
  · exact .malformed _

theorem textOnly_escapeByCode (width : Nat) (s : List Char) : TextOnly (escapeByCode width s) := by
  refine .bind (textOnly_escapeCode width s) fun code => ?_
  dsimp only
  split
  · exact .impossible _
  · split
    · exact .impossible _
    · split
      · split <;> exact .ok _
      · split <;> exact .ok _

theorem textOnly_escape (s : List Char) : TextOnly (escape s) := by
  unfold escape
  split
  · exact .malformed _
  · split
    · exact .ok _
    · exact .map (textOnly_escapeByCode _ _) _
    · split
      · exact .map (textOnly_breaksInQuotes _) _
      · exact .malformed _

theorem textOnly_gapInQuotes (s : List Char) : TextOnly (gapInQuotes s) := by
  dsimp only [gapInQuotes]
  split
  · exact .malformed _
  · split
    · exact .map (textOnly_breaksInQuotes _) _
    · exact .ok _

theorem textOnly_quotedScalar (quote : Char) (s : List Char) : TextOnly (quotedScalar quote s) := by
  refine .map (.walk (fun found s => ?_) fun found => .malformed _) _
  dsimp only
  split
  · exact .ok _
  · split
    · split <;> exact .ok _
    · split
      · exact .map (textOnly_escape _) _
      · split
        · exact .map (textOnly_gapInQuotes _) _
        · exact .ok _

theorem textOnly_blockHeader (s : List Char) : TextOnly (blockHeader s) := by
  dsimp only [blockHeader]
  split
  · exact .malformed _
  · exact .ok _

theorem textOnly_blockScalar (fold : Bool) (least : Nat) (s : List Char) :
    TextOnly (blockScalar fold least s) :=
  .map (textOnly_blockHeader s) _

/-! ## Tokens -/

namespace Lexer

variable (l : Lexer)

theorem textOnly_giveUp (candidate : Option Candidate) : TextOnly (giveUp candidate) := by
  unfold giveUp
  split
  · split
    · exact .malformed _
    · exact .ok _
  · exact .ok _

theorem textOnly_dropCandidate : TextOnly l.dropCandidate :=
  .map (textOnly_giveUp _) _

theorem textOnly_saveCandidate : TextOnly l.saveCandidate := by
  dsimp only [saveCandidate]
  split
  · exact .map l.textOnly_dropCandidate _
  · exact .ok _

theorem textOnly_expire : TextOnly l.expire := by
  refine .bind (.mapM fun candidate => ?_) fun candidates => .ok _
  split
  · split
    · exact textOnly_giveUp _
    · exact .ok _
  · exact .ok _

theorem textOnly_endDocument : TextOnly l.endDocument :=
  .map (textOnly_dropCandidate _) _

theorem textOnly_openFlow (t : Token) : TextOnly (l.openFlow t) := by
  unfold openFlow
  dsimp only
  split
  · exact .impossible _
  · exact .bind l.textOnly_saveCandidate fun l => .ok _

theorem textOnly_closeFlow (t : Token) : TextOnly (l.closeFlow t) := by
  refine .bind l.textOnly_dropCandidate fun l => ?_
  dsimp only
  split
  · exact .malformed _
  · exact .ok _

theorem textOnly_comma : TextOnly l.comma :=
  .map l.textOnly_dropCandidate _

theorem textOnly_item : TextOnly l.item := by
  unfold item
  dsimp only
  split
  · exact .malformed _
  · exact .bind (textOnly_dropCandidate _) fun l => .ok _

theorem textOnly_key : TextOnly l.key := by
  unfold key
  dsimp only
  split
  · exact .malformed _
  · exact .bind (textOnly_dropCandidate _) fun l => .ok _

theorem textOnly_value : TextOnly l.value := by
  unfold value
  split
  · exact .ok _
  · dsimp only
    split
    · exact .malformed _
    · exact .ok _

theorem textOnly_keyToken {token : Except Refusal (Token × Nat)} (h : TextOnly token) :
    TextOnly (l.keyToken token) :=
  .bind l.textOnly_saveCandidate fun _ => .bind h fun _ => .ok _

theorem textOnly_plain (s : List Char) : TextOnly (l.plain s) :=
  .bind l.textOnly_saveCandidate fun _ => .ok _

theorem textOnly_block (fold : Bool) (s : List Char) : TextOnly (l.block fold s) :=
  .bind l.textOnly_dropCandidate fun _ => .bind (textOnly_blockScalar _ _ _) fun _ => .ok _

theorem textOnly_directive (s : List Char) : TextOnly (l.directive s) :=
  .bind l.textOnly_endDocument fun _ => .bind (textOnly_readDirective s) fun _ => .ok _

theorem textOnly_mark {taken : Nat} {next : Except Refusal Lexer} (h : TextOnly next) :
    TextOnly (mark taken next) :=
  .map h _

/-- The text says what no token can be read from, whatever the token is. -/
theorem textOnly_token (c : Char) (r : List Char) : TextOnly (l.token c r) := by
  unfold token
  refine .ite (l.textOnly_directive r) ?_
  refine .ite (textOnly_mark (.map l.textOnly_endDocument _)) ?_
  refine .ite (textOnly_mark (.map l.textOnly_endDocument _)) ?_
  refine .ite (textOnly_mark (l.textOnly_openFlow _)) ?_
  refine .ite (textOnly_mark (l.textOnly_openFlow _)) ?_
  refine .ite (textOnly_mark (l.textOnly_closeFlow _)) ?_
  refine .ite (textOnly_mark (l.textOnly_closeFlow _)) ?_
  refine .ite (textOnly_mark l.textOnly_comma) ?_
  refine .ite (textOnly_mark l.textOnly_item) ?_
  refine .ite (textOnly_mark l.textOnly_key) ?_
  refine .ite (textOnly_mark l.textOnly_value) ?_
  refine .ite (l.textOnly_keyToken (.map (textOnly_anchorName r) _)) ?_
  refine .ite (l.textOnly_keyToken (.map (textOnly_anchorName r) _)) ?_
  refine .ite (l.textOnly_keyToken (.map (textOnly_readTag (c :: r)) _)) ?_
  refine .ite (l.textOnly_block false r) ?_
  refine .ite (l.textOnly_block true r) ?_
  refine .ite (l.textOnly_keyToken (.map (textOnly_quotedScalar c r) _)) ?_
  exact .ite (l.textOnly_plain (c :: r)) (.malformed _)

theorem textOnly_readToken (c : Char) (r : List Char) : TextOnly (l.readToken c r) :=
  .bind l.textOnly_expire fun _ => .bind (textOnly_token _ c r) fun _ =>
    .bind (textOnly_expire _) fun _ => .ok _

/-! ## The end of what there is -/

/-- A refusal is for what the text says, or it is the one that shows up behind the text. -/
def Expected (ending : Option Refusal) (e : Refusal) : Prop :=
  e.OfText ∨ ending = some e

theorem expected_of_readBefore {ending : Option Refusal} {c : Char} {r : List Char} {e : Refusal}
    (h : readBefore ending l c r = .error e) : Expected ending e := by
  unfold readBefore at h
  split at h
  · exact .inl (l.textOnly_readToken c r e h)
  · split at h
    · cases h
    · cases h
      exact .inr rfl
  · cases h
    exact .inr rfl
  · next hother =>
      split at h
      · cases h
        exact .inr rfl
      · cases h
        exact .inl (l.textOnly_readToken c r e hother)

/-- What comes out in a state keeps its refusal. -/
theorem orStop_eq_error {result : Except Refusal α} {stop : Stop}
    (h : l.orStop result = .error stop) : result = .error stop.refusal := by
  cases result with
  | ok a => cases h
  | error e =>
      cases h
      rfl

/-- A step goes on, or it stops with a refusal of the token that it reads. -/
theorem step_cases (ending : Option Refusal) (c : Char) (r : List Char) :
    (∃ next taken, step ending l (c :: r) = .ok (.go next taken)) ∨
      ∃ stop, step ending l (c :: r) = .error stop ∧
        readBefore ending l c r = .error stop.refusal := by
  dsimp only [step]
  split
  · exact .inl ⟨_, _, rfl⟩
  · split
    · exact .inl ⟨_, _, rfl⟩
    · split
      · exact .inl ⟨_, _, rfl⟩
      · cases readBefore ending l c r with
        | ok found => exact .inl ⟨found.1, found.2, rfl⟩
        | error e => exact .inr ⟨⟨e, l.settled⟩, rfl, rfl⟩

theorem expected_of_step {ending : Option Refusal} {s : List Char} {stop : Stop}
    (h : step ending l s = .error stop) : Expected ending stop.refusal := by
  cases s with
  | nil => cases h
  | cons c r =>
      rcases l.step_cases ending c r with ⟨next, taken, hstep⟩ | ⟨reason, hstep, hread⟩
      · cases hstep.symm.trans h
      · cases hstep.symm.trans h
        exact l.expected_of_readBefore hread

/-- At its end a text is refused for what shows up there, or else for what it says. -/
theorem expected_of_finish {ending : Option Refusal} {stop : Stop}
    (h : l.finish ending = .error stop) : Expected ending stop.refusal := by
  cases ending with
  | some refusal =>
      cases h
      exact .inr rfl
  | none =>
      have hends : TextOnly (do
          let l ← l.expire
          (l.unwind (-1)).dropCandidate) :=
        .bind l.textOnly_expire fun l => textOnly_dropCandidate _
      exact .inl (hends _ (l.orStop_eq_error h))

/-- Reading goes on until the text is at its end. -/
theorem step_ne_stop {ending : Option Refusal} {c : Char} {r : List Char} {result : Lexer}
    {taken : Nat} : step ending l (c :: r) ≠ .ok (.stop result taken) := by
  intro h
  rcases l.step_cases ending c r with ⟨next, taken, hstep⟩ | ⟨reason, hstep, _⟩
  · cases hstep.symm.trans h
  · cases hstep.symm.trans h

end Lexer

namespace Tokens

/-- The tokens of a text are refused for what the text says, or for what shows up behind it. -/
theorem expected_of_before {ending : Option Refusal} {s : List Char} {e : Refusal}
    (h : (before ending s).refusal = some e) : Lexer.Expected ending e := by
  unfold before at h
  split at h
  · cases h
  · next stop hstop =>
      cases h
      have hstep : ∀ l s stop, Lexer.step ending l s = .error stop →
          Lexer.Expected ending stop.refusal := fun l _ _ => l.expected_of_step
      have hfinish : ∀ l stop, Lexer.finish ending l = .error stop →
          Lexer.Expected ending stop.refusal := fun l _ => l.expected_of_finish
      exact Walk.error_of_run hstep hfinish hstop

/-- What shows up behind a text is not passed over. -/
theorem refusal_before_ne_none (refusal : Refusal) (s : List Char) :
    (before (some refusal) s).refusal ≠ none := by
  intro h
  unfold before at h
  split at h
  · next l taken hrun =>
      obtain ⟨last, hlast⟩ := Walk.exists_finish_of_run (fun l c r _ _ => l.step_ne_stop) hrun
      cases hlast
  · cases h

/-- The tokens of a stream are refused for what its text says, or for the bytes behind it that are
no text. -/
theorem expected_of_ofStream {stream : Text.Stream} {e : Refusal}
    (h : (ofStream stream).refusal = some e) :
    e.OfText ∨ ∃ failure, stream.failure = some failure ∧ e = .undecodable failure := by
  unfold ofStream at h
  dsimp only at h
  split at h
  · rcases expected_of_before h with htext | hending
    · exact .inl htext
    · cases hending
      exact .inl trivial
  · rcases expected_of_before h with htext | hending
    · exact .inl htext
    · obtain ⟨failure, hfailure, rfl⟩ := Option.map_eq_some_iff.1 hending
      exact .inr ⟨failure, hfailure, rfl⟩

/-- The tokens of a stream are all there only if no bytes behind its text are no text. -/
theorem failure_eq_none_of_ofStream {stream : Text.Stream}
    (h : (ofStream stream).refusal = none) : stream.failure = none := by
  unfold ofStream at h
  dsimp only at h
  split at h
  · exact absurd h (refusal_before_ne_none _ _)
  · cases hfailure : stream.failure with
    | none => rfl
    | some failure =>
        rw [hfailure] at h
        exact absurd h (refusal_before_ne_none _ _)

end Tokens

end ModelGraph.Yaml
