import ModelGraph.Proofs.Yaml.Tokens
import ModelGraph.Yaml.Read

/-!
# Reading values of texts

The readers of nodes, the work on their contents and the reading of a value as a whole are refused
only for what the text says, or for what shows up behind its tokens (`Document.leads_readOne`,
`Content.textOnly_ofDocument`). So a text whose bytes are a text is never refused because of its bytes
(`read_expected`), and one whose bytes are no text never says a value (`failure_eq_none_of_read`),
however far it was read.
-/

namespace ModelGraph.Yaml

variable {α : Type}

namespace Document

/-- What shows up behind the tokens of a source. -/
abbrev EndsWith (ending : Option Refusal) (source : Source) : Prop :=
  source.tokens.refusal = ending

/-- A reader of nodes leaves alone what shows up behind the tokens, and is refused for that or for
what the text says. -/
abbrev Orderly (ending : Option Refusal) (x : Reader α) : Prop :=
  Keeps (EndsWith ending) (Lexer.Expected ending) x

variable {ending : Option Refusal}

theorem orderly_refuse (fault : Fault) : Orderly ending (refuse fault : Reader α) :=
  .throw (.inl trivial)

/-- The next token shows up, or the end of the text, or what shows up behind the tokens. -/
theorem run_peek (source : Source) : peek.run source =
    match source.tokens.known, source.tokens.refusal with
    | t :: _, _ => .ok (some t, source)
    | [], none => .ok (none, source)
    | [], some refusal => .error refusal := by
  simp only [peek, StateT.run_bind, StateT.run_get, pure_bind]
  cases source.tokens.known with
  | cons t rest => rfl
  | nil =>
      cases source.tokens.refusal with
      | none => rfl
      | some refusal => rfl

/-- At the end of the known tokens there is nothing more only if nothing else shows up. -/
theorem leads_peek : Leads (EndsWith ending) (Lexer.Expected ending) peek fun t source =>
    EndsWith ending source ∧ (t = none → ending = none) := by
  intro source hsource
  rw [run_peek]
  split
  · refine ⟨fun e h => ?_, fun t next h => ?_⟩
    · cases h
    · cases h
      exact ⟨hsource, fun h => absurd h (Option.some_ne_none _)⟩
  · next hrefusal =>
      refine ⟨fun e h => ?_, fun t next h => ?_⟩
      · cases h
      · cases h
        exact ⟨hsource, fun _ => hsource.symm.trans hrefusal⟩
  · next refusal _ hrefusal =>
      refine ⟨fun e h => ?_, fun t next h => ?_⟩
      · cases h
        exact .inr (hsource.symm.trans hrefusal)
      · cases h

theorem orderly_peek : Orderly ending peek :=
  leads_peek.mono fun _ _ h => h.1

theorem orderly_pass : Orderly ending pass :=
  .modify fun _ h => h

theorem orderly_isNext (tokens : List Token) : Orderly ending (isNext tokens) :=
  .bind orderly_peek fun _ => .pure _

theorem orderly_passIf (t : Token) : Orderly ending (passIf t) :=
  .bind (orderly_isNext _) fun _ => .ite (.bind orderly_pass fun _ => .pure _) (.pure _)

/-! ## Properties of nodes -/

theorem orderly_readAnchor : Orderly ending readAnchor := by
  refine .bind orderly_peek fun t => ?_
  split
  · exact .bind orderly_pass fun _ => .pure _
  · exact .pure _

theorem orderly_readTag : Orderly ending readTag := by
  refine .bind orderly_peek fun t => ?_
  split
  · exact .bind orderly_pass fun _ => .pure _
  · exact .pure _

theorem orderly_tagText (tag : Tag) : Orderly ending (tagText tag) := by
  unfold tagText
  split
  · exact .pure _
  · refine .bind .get fun source => ?_
    split
    · exact .pure _
    · exact orderly_refuse _

theorem orderly_properties : Orderly ending properties := by
  have hrest : ∀ found : Option String × Option Tag, Orderly ending (do
      let tag ← found.2.mapM tagText
      return ({ anchor := found.1, tag } : Properties)) := by
    intro found
    refine .bind ?_ fun tag => .pure _
    cases found.2 with
    | none => exact .pure none
    | some tag => exact .bind (orderly_tagText tag) fun text => .pure (some text)
  refine .bind orderly_readAnchor fun anchor => ?_
  split
  · exact .bind orderly_readTag fun tag => .bind (.pure _) hrest
  · refine .bind orderly_readTag fun tag => .ite ?_ (.bind (.pure _) hrest)
    exact .bind orderly_readAnchor fun anchor => .bind (.pure _) hrest

/-! ## Making nodes -/

theorem orderly_add (node : Node) : Orderly ending (add node) :=
  .bind .get fun _ => .bind (.modify fun _ h => h) fun _ => .pure _

theorem orderly_addNamed (anchor : Option String) (node : Node) :
    Orderly ending (addNamed anchor node) := by
  unfold addNamed
  split
  · exact orderly_add node
  · refine .bind .get fun source => .check (orderly_refuse _) ?_
    exact .bind (orderly_add node) fun _ => .bind (.modify fun _ h => h) fun _ => .pure _

theorem orderly_addScalar (p : Properties) (style : Style) (text : String) :
    Orderly ending (addScalar p style text) :=
  orderly_addNamed _ _

theorem orderly_addEmpty (p : Properties) : Orderly ending (addEmpty p) :=
  .ite (orderly_refuse _) (orderly_addScalar p _ _)

theorem orderly_lookUp (name : String) : Orderly ending (lookUp name) := by
  refine .bind .get fun source => ?_
  split
  · exact .pure _
  · exact orderly_refuse _

theorem orderly_addList (p : Properties) {items : Reader (List NodeId)}
    (h : Orderly ending items) : Orderly ending (addList p items) :=
  .bind (orderly_addNamed _ _) fun _ => .bind h fun _ => .bind (.modify fun _ h => h) fun _ => .pure _

theorem orderly_addObject (p : Properties) {entries : Reader (List (NodeId × NodeId))}
    (h : Orderly ending entries) : Orderly ending (addObject p entries) :=
  .bind (orderly_addNamed _ _) fun _ => .bind h fun _ => .bind (.modify fun _ h => h) fun _ => .pure _

/-! ## Reading nodes -/

theorem orderly_before (stops : List Token) {read : Reader NodeId} (h : Orderly ending read) :
    Orderly ending (before stops read) := by
  refine .bind (orderly_isNext stops) fun isStop => ?_
  split
  · exact orderly_add _
  · exact h

theorem orderly_pass_then {read : Reader α} (h : Orderly ending read) :
    Orderly ending (pass *> read) := by
  rw [seqRight_eq_bind]
  exact .bind orderly_pass fun _ => h

/-- The readers of nodes with a limit on their steps. -/
structure ReadersOrderly (ending : Option Refusal) (fuel : Nat) : Prop where
  read : ∀ place room, Orderly ending (Document.read place room fuel)
  content : ∀ place room p, Orderly ending (readContent place room p fuel)
  blockItems : ∀ room, Orderly ending (Document.blockItems room fuel)
  outdentedItems : ∀ room, Orderly ending (Document.outdentedItems room fuel)
  blockEntries : ∀ room, Orderly ending (Document.blockEntries room fuel)
  flowValue : ∀ stop room, Orderly ending (Document.flowValue stop room fuel)
  flowItems : ∀ first room, Orderly ending (Document.flowItems first room fuel)
  flowEntries : ∀ first room, Orderly ending (Document.flowEntries first room fuel)

variable {fuel : Nat}

theorem readersOrderly_zero : ReadersOrderly ending 0 where
  read _ _ := orderly_refuse _
  content _ _ _ := orderly_refuse _
  blockItems _ := orderly_refuse _
  outdentedItems _ := orderly_refuse _
  blockEntries _ := orderly_refuse _
  flowValue _ _ := orderly_refuse _
  flowItems _ _ := orderly_refuse _
  flowEntries _ _ := orderly_refuse _

namespace ReadersOrderly

variable (h : ReadersOrderly ending fuel)

include h

theorem read_succ (place : Place) (room : Nat) :
    Orderly ending (Document.read place room (fuel + 1)) := by
  rw [Document.read]
  refine .check (.throw (.inl trivial)) ?_
  refine .bind orderly_peek fun t => ?_
  split
  · exact .bind orderly_pass fun _ => orderly_lookUp _
  · exact .bind orderly_properties fun p => h.content _ _ p

theorem content_succ (place : Place) (room : Nat) (p : Properties) :
    Orderly ending (readContent place room p (fuel + 1)) := by
  rw [readContent]
  refine .bind orderly_peek fun t => ?_
  split
  · exact .bind orderly_pass fun _ => orderly_addScalar _ _ _
  · exact orderly_addList p (orderly_pass_then (h.flowItems _ _))
  · exact orderly_addObject p (orderly_pass_then (h.flowEntries _ _))
  · exact .ite (orderly_addEmpty p) (orderly_addList p (orderly_pass_then (h.blockItems _)))
  · exact .ite (orderly_addEmpty p) (orderly_addObject p (orderly_pass_then (h.blockEntries _)))
  · exact .ite (orderly_addList p (h.outdentedItems _)) (orderly_addEmpty p)
  · exact orderly_addEmpty p

theorem blockItems_succ (room : Nat) : Orderly ending (Document.blockItems room (fuel + 1)) := by
  rw [Document.blockItems]
  refine .bind (orderly_passIf _) fun isItem => .ite ?_ ?_
  · exact .bind (orderly_before _ (h.read _ _)) fun _ => .bind (h.blockItems _) fun _ => .pure _
  · exact .bind (orderly_passIf _) fun isEnd => .ite (.pure _) (orderly_refuse _)

theorem outdentedItems_succ (room : Nat) :
    Orderly ending (Document.outdentedItems room (fuel + 1)) := by
  rw [Document.outdentedItems]
  refine .bind (orderly_passIf _) fun isItem => .ite ?_ (.pure _)
  exact .bind (orderly_before _ (h.read _ _)) fun _ => .bind (h.outdentedItems _) fun _ => .pure _

theorem blockEntries_succ (room : Nat) :
    Orderly ending (Document.blockEntries room (fuel + 1)) := by
  rw [Document.blockEntries]
  refine .bind (orderly_passIf _) fun isKey => .ite ?_ ?_
  · refine .bind (orderly_before _ (h.read _ _)) fun key => .bind (orderly_passIf _) fun isValue => ?_
    have hrest : ∀ value, Orderly ending (do
        return (key, value) :: (← Document.blockEntries room fuel)) :=
      fun value => .bind (h.blockEntries _) fun _ => .pure _
    exact .ite (.bind (orderly_before _ (h.read _ _)) hrest) (.bind (orderly_add _) hrest)
  · exact .bind (orderly_passIf _) fun isEnd => .ite (.pure _) (orderly_refuse _)

theorem flowValue_succ (stop : Token) (room : Nat) :
    Orderly ending (Document.flowValue stop room (fuel + 1)) := by
  rw [Document.flowValue]
  exact .bind (orderly_passIf _) fun isValue => .ite (orderly_before _ (h.read _ _)) (orderly_add _)

theorem flowItems_succ (first : Bool) (room : Nat) :
    Orderly ending (Document.flowItems first room (fuel + 1)) := by
  have hafter : ∀ item, Orderly ending (do
      return item :: (← Document.flowItems false room fuel)) :=
    fun item => .bind (h.flowItems _ _) fun _ => .pure _
  have hpair : Orderly ending (addObject ⟨none, none⟩ do
      pass
      let key ← before [.value, .comma, .flowListEnd] (Document.read .flow (room - 1) fuel)
      return [(key, ← Document.flowValue .flowListEnd (room - 1) fuel)]) :=
    orderly_addObject _ <| .bind orderly_pass fun _ =>
      .bind (orderly_before _ (h.read _ _)) fun _ => .bind (h.flowValue _ _) fun _ => .pure _
  have hitem : Orderly ending (do
      if ← passIf .flowListEnd then return []
      let item ←
        if ← isNext [.key] then
          addObject ⟨none, none⟩ do
            pass
            let key ← before [.value, .comma, .flowListEnd] (Document.read .flow (room - 1) fuel)
            return [(key, ← Document.flowValue .flowListEnd (room - 1) fuel)]
        else Document.read .flow room fuel
      return item :: (← Document.flowItems false room fuel)) := by
    refine .bind (orderly_passIf _) fun isEnd => .ite (.pure _) ?_
    exact .bind (orderly_isNext _) fun isKey =>
      .ite (.bind hpair hafter) (.bind (h.read _ _) hafter)
  rw [Document.flowItems]
  refine .bind (orderly_passIf _) fun isEnd => .ite (.pure _) ?_
  refine .ite ?_ hitem
  exact .bind (orderly_passIf _) fun isComma => .check (orderly_refuse _) hitem

theorem flowEntries_succ (first : Bool) (room : Nat) :
    Orderly ending (Document.flowEntries first room (fuel + 1)) := by
  have hafter : ∀ entry, Orderly ending (do
      return entry :: (← Document.flowEntries false room fuel)) :=
    fun entry => .bind (h.flowEntries _ _) fun _ => .pure _
  have hentry : Orderly ending (do
      if ← passIf .flowObjectEnd then return []
      let entry ←
        if ← passIf .key then
          let key ← before [.value, .comma, .flowObjectEnd] (Document.read .flow room fuel)
          pure (key, ← Document.flowValue .flowObjectEnd room fuel)
        else
          let key ← Document.read .flow room fuel
          pure (key, ← addNothing)
      return entry :: (← Document.flowEntries false room fuel)) := by
    refine .bind (orderly_passIf _) fun isEnd => .ite (.pure _) ?_
    refine .bind (orderly_passIf _) fun isKey => .ite ?_ ?_
    · exact .bind (orderly_before _ (h.read _ _)) fun _ => .bind (h.flowValue _ _) fun _ =>
        .bind (.pure _) hafter
    · exact .bind (h.read _ _) fun _ => .bind (orderly_add _) fun _ => .bind (.pure _) hafter
  rw [Document.flowEntries]
  refine .bind (orderly_passIf _) fun isEnd => .ite (.pure _) ?_
  refine .ite ?_ hentry
  exact .bind (orderly_passIf _) fun isComma => .check (orderly_refuse _) hentry

end ReadersOrderly

theorem readersOrderly (ending : Option Refusal) (fuel : Nat) : ReadersOrderly ending fuel := by
  -- The readers call each other with one step less, so all of them go through one induction.
  induction fuel with
  | zero => exact readersOrderly_zero
  | succ fuel ih =>
      exact ⟨ih.read_succ, ih.content_succ, ih.blockItems_succ, ih.outdentedItems_succ,
        ih.blockEntries_succ, ih.flowValue_succ, ih.flowItems_succ, ih.flowEntries_succ⟩

/-! ## Reading documents -/

theorem orderly_directives (versioned : Bool) (handles : List (String × String)) (fuel : Nat) :
    Orderly ending (directives versioned handles fuel) := by
  induction fuel generalizing versioned handles with
  | zero => exact orderly_refuse _
  | succ fuel ih =>
      rw [directives]
      refine .bind orderly_peek fun t => ?_
      split
      · refine .bind orderly_pass fun _ => ?_
        split
        · exact .check (orderly_refuse _) (.check (orderly_refuse _) (ih _ _))
        · exact .check (orderly_refuse _) (ih _ _)
        · exact ih _ _
      · exact .pure _

theorem orderly_readHead (fuel : Nat) : Orderly ending (readHead fuel) := by
  have hhead : Orderly ending (do
      let handles ← directives false [] fuel
      modify fun source => { source with handles }
      if ← passIf .documentStart then return true
      refuse .badDirective) :=
    .bind (orderly_directives _ _ _) fun _ => .bind (.modify fun _ h => h) fun _ =>
      .bind (orderly_passIf _) fun _ => .ite (.pure _) (orderly_refuse _)
  refine .bind orderly_peek fun t => ?_
  split
  · exact hhead
  · exact hhead
  · exact .pure _

theorem orderly_passEnds (fuel : Nat) : Orderly ending (passEnds fuel) := by
  induction fuel with
  | zero => exact .pure _
  | succ fuel ih =>
      rw [passEnds]
      exact .bind (orderly_passIf _) fun _ => .ite ih (.pure _)

/-- What comes after a look at the next token, where the end of the text shows that nothing else
shows up behind the tokens. -/
theorem leads_peek_bind {J : α → Source → Prop} {f : Option Token → Reader α}
    (hnone : ending = none → Leads (EndsWith ending) (Lexer.Expected ending) (f none) J)
    (hsome : ∀ t, Leads (EndsWith ending) (Lexer.Expected ending) (f (some t)) J) :
    Leads (EndsWith ending) (Lexer.Expected ending) (peek >>= f) J := by
  refine leads_peek.bind_result fun t => ?_
  cases t with
  | none => exact fun source h => hnone (h.2 rfl) source h.1
  | some t => exact fun source h => hsome t source h.1

/-- A document is read up to the end of the text, and nothing else may show up behind it. -/
theorem leads_readOne (fuel : Nat) :
    Leads (EndsWith ending) (Lexer.Expected ending) (readOne fuel) fun _ _ => ending = none := by
  have hend : ∀ root : NodeId, Leads (EndsWith ending) (Lexer.Expected ending) (do
        passEnds fuel
        if (← peek).isNone then return some root
        let _ ← readHead fuel
        refuse .secondDocument) fun _ _ => ending = none := by
    intro root
    refine .bind (orderly_passEnds _) fun _ => leads_peek_bind (fun hnone => ?_) fun t => ?_
    · exact (Leads.pure (some root)).mono fun _ _ _ => hnone
    · exact .bind (orderly_readHead _) fun _ => .throw (.inl trivial)
  refine leads_peek_bind (fun hnone => ?_) fun t => ?_
  · exact (Leads.pure none).mono fun _ _ _ => hnone
  · refine .bind (orderly_readHead _) fun headed => ?_
    have hroot := (readersOrderly ending fuel).read .block depthLimit
    exact .bind orderly_peek fun t => .ite (.bind (orderly_add _) hend) (.bind hroot hend)

/-- A document is read only if nothing shows up behind the tokens. Otherwise the text is refused for
what it says, or for that. -/
theorem ofTokens?_expected (tokens : Tokens) :
    (∀ e, ofTokens? tokens = .error e → Lexer.Expected tokens.refusal e) ∧
      ∀ d, ofTokens? tokens = .ok d → tokens.refusal = none := by
  have hleads : Leads (EndsWith tokens.refusal) (Lexer.Expected tokens.refusal)
    (readOne (3 * tokens.known.length + 6)) fun _ _ => tokens.refusal = none := leads_readOne _
  have hread := hleads ⟨tokens, #[], [], standardHandles⟩ rfl
  unfold ofTokens?
  dsimp only
  cases hrun : (readOne (3 * tokens.known.length + 6)).run ⟨tokens, #[], [], standardHandles⟩ with
  | error e =>
      refine ⟨fun e' h => ?_, fun d h => ?_⟩
      · cases h
        exact hread.1 e hrun
      · cases h
  | ok found =>
      refine ⟨fun e h => ?_, fun d _ => ?_⟩
      · cases h
      · exact hread.2 found.1 found.2 hrun

end Document

/-! ## Contents -/

theorem textOnly_possible {value : Except Impossible α} : TextOnly (possible value) := by
  cases value with
  | error e => exact .impossible e
  | ok a => exact .ok a

theorem textOnly_bytesOf (s : List Char) : TextOnly (bytesOf s) := by
  unfold bytesOf
  split
  · split
    · exact .ok _
    · exact .malformed _
  · exact .malformed _

theorem textOnly_scalar (kind : Kind) (written : Written) : TextOnly (kind.scalar written) := by
  unfold Kind.scalar
  dsimp only
  split
  · exact .ok _
  · exact textOnly_possible
  · exact textOnly_possible
  · exact textOnly_possible
  · exact .map (textOnly_bytesOf _) _
  · exact textOnly_possible
  · exact .ok _
  · exact .malformed _

namespace Content

/-- A step of the work is refused only for what the text says. -/
abbrev Plain (x : Worker α) : Prop :=
  Keeps (fun _ => True) Refusal.OfText x

theorem plain_refuse (fault : Fault) : Plain (refuse fault : Worker α) :=
  .throw trivial

theorem plain_modify (f : Work → Work) : Plain (modify f) :=
  .modify fun _ _ => trivial

theorem plain_node (id : NodeId) : Plain (node id) :=
  .bind .get fun _ => .pure _

theorem plain_entries (id : NodeId) : Plain (entries id) := by
  refine .bind (plain_node id) fun n => ?_
  split
  · exact .pure _
  · exact plain_refuse _

theorem plain_written (fuel : Nat) (id : NodeId) : Plain (written fuel id) := by
  induction fuel generalizing id with
  | zero => exact .throw trivial
  | succ fuel ih =>
      rw [written]
      refine .bind (plain_node id) fun n => ?_
      split
      · exact .pure _
      · exact plain_refuse _
      · refine .bind (.findM? fun entry => .bind (plain_node _) fun _ => .pure _) fun found => ?_
        split
        · exact ih _
        · exact plain_refuse _

theorem plain_key (id : NodeId) : Plain (key id) := by
  refine .bind (plain_node id) fun n => .check (plain_refuse _) ?_
  refine .bind .get fun work => .bind (plain_written _ _) fun w => ?_
  split
  · exact .throw trivial
  · exact .bind (.lift (textOnly_scalar _ _)) fun _ => .pure _

theorem plain_make (id : NodeId) : Plain (make id) := by
  refine .bind .get fun work => ?_
  split
  · exact .pure _
  · refine .bind (plain_node id) fun n => .ite ?_ ?_
    · exact .bind (plain_modify _) fun _ => .bind (plain_modify _) fun _ => .pure _
    · exact .bind (plain_key id) fun _ => .bind (plain_modify _) fun _ => .pure _

/-- Merging entries with a limit on its steps. -/
theorem plain_merge_and_mergedEntries (fuel : Nat) :
    (∀ taken id, Plain (merge taken fuel id)) ∧ ∀ id, Plain (mergedEntries fuel id) := by
  induction fuel with
  | zero => exact ⟨fun _ _ => plain_refuse _, fun _ => plain_refuse _⟩
  | succ fuel ih =>
      obtain ⟨hmerge, hmerged⟩ := ih
      refine ⟨fun taken id => ?_, fun id => ?_⟩
      · rw [merge]
        refine .bind (plain_entries id) fun own => ?_
        refine .bind (.findM? fun entry => .bind (plain_node _) fun _ => .pure _) fun found => ?_
        split
        · exact .ite (plain_modify _) (.pure _)
        · refine .bind (plain_node _) fun n => .ite ?_ ?_
          · exact .bind (plain_modify _) fun _ => .bind (hmerged _) fun _ => hmerge _ _
          · exact .bind (plain_modify _) fun _ => hmerge _ _
      · rw [mergedEntries]
        refine .bind (plain_node id) fun n => ?_
        split
        · exact plain_refuse _
        · exact .bind (hmerge _ _) fun _ => plain_entries _
        · refine .bind (.mapM fun item => ?_) fun lists => .pure _
          exact .bind (plain_entries _) fun _ => .bind (hmerge _ _) fun _ => plain_entries _

theorem plain_makeEntries (id : NodeId) : Plain (makeEntries id) := by
  refine .bind .get fun work => .bind ((plain_merge_and_mergedEntries _).1 _ _) fun _ => ?_
  refine .bind (plain_entries id) fun own => .foldlM fun made entry => ?_
  refine .bind (plain_make _) fun content => ?_
  split
  · exact .bind (plain_make _) fun _ => .pure _
  · exact plain_refuse _

theorem plain_makePair (id : NodeId) : Plain (makePair id) := by
  refine .bind (plain_node id) fun n => ?_
  split
  · exact .bind (plain_make _) fun _ => .bind (plain_make _) fun _ => .pure _
  · exact plain_refuse _

theorem plain_fill (id : NodeId) : Plain (fill id) := by
  refine .bind (plain_node id) fun n => ?_
  split
  · exact .bind (.forM fun item => .bind (plain_make item) fun _ => .pure _) fun _ => plain_modify _
  · exact .bind (.mapM plain_makePair) fun _ => plain_modify _
  · exact .bind (plain_makeEntries id) fun _ => plain_modify _
  · exact .bind (plain_makeEntries id) fun _ => plain_modify _
  · exact plain_refuse _

theorem plain_fillLevels (fuel : Nat) : Plain (fillLevels fuel) := by
  induction fuel with
  | zero => exact .pure _
  | succ fuel ih =>
      rw [fillLevels]
      refine .bind .get fun work => .ite ?_ (.pure _)
      exact .bind (plain_modify _) fun _ => .bind (.forM plain_fill) fun _ => ih

theorem textOnly_ofDocument (d : Document) : TextOnly (ofDocument d) := by
  have hwork : Plain (do
      let _ ← make d.root
      fillLevels (d.nodes.size + 1)) :=
    .bind (plain_make _) fun _ => plain_fillLevels _
  exact .bind (hwork ⟨d.nodes, Array.replicate d.nodes.size none, []⟩ trivial).1 fun _ => .ok _

end Content

theorem Document.textOnly_toValue (d : Document) : TextOnly d.toValue :=
  .bind (Content.textOnly_ofDocument d) fun _ => .ok _

/-! ## Reading values -/

/-- A text is refused for what it says, or for the bytes behind it that are no text. -/
theorem read_expected (stream : Text.Stream) {e : Refusal} (h : read stream = .error e) :
    e.OfText ∨ ∃ failure, stream.failure = some failure ∧ e = .undecodable failure := by
  unfold read at h
  cases hdocument : Document.ofTokens? (.ofStream stream) with
  | error reason =>
      rw [hdocument] at h
      cases h
      rcases (Document.ofTokens?_expected _).1 e hdocument with htext | hending
      · exact .inl htext
      · exact Tokens.expected_of_ofStream hending
  | ok document =>
      rw [hdocument] at h
      cases document with
      | none => cases h
      | some document => exact .inl (document.textOnly_toValue e h)

/-- A text says a value only if there are no bytes behind it that are no text. -/
theorem failure_eq_none_of_read {stream : Text.Stream} {value : Value}
    (h : read stream = .ok value) : stream.failure = none := by
  unfold read at h
  cases hdocument : Document.ofTokens? (.ofStream stream) with
  | error reason =>
      rw [hdocument] at h
      cases h
  | ok document =>
      exact Tokens.failure_eq_none_of_ofStream ((Document.ofTokens?_expected _).2 _ hdocument)

end ModelGraph.Yaml
