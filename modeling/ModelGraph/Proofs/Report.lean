import ModelGraph.Proofs.Text.Ends
import ModelGraph.Report

/-!
# Reading reports back

The text of a report whose parts are lines tells all its parts (`render_eq_render_iff`). The lines
are read back by splitting the text at its line breaks. The first characters of the lines tell the
sections apart: a line of the context begins with a space, like a suggestion, but the titles of the
sections begin with letters of their own. A line of the context tells its key because a key has no
colon.
-/

namespace ModelGraph.Report

/-- A value that is a text of one line. -/
inductive IsLine : Value → Prop
  | text {s : String} : '\n' ∉ s.toList → IsLine (.text s)

/-- A key of a detail: one line without a colon. -/
inductive IsKey : Scalar → Prop
  | text {s : String} : '\n' ∉ s.toList → ':' ∉ s.toList → IsKey (.text s)

/-- A code that stands for no code at all. -/
def NoCode (code : Value) : Prop :=
  code = .null ∨ code = .text ""

/-- A report whose parts are lines. -/
structure OfLines (r : Report) : Prop where
  message : IsLine r.message
  code : r.code = .null ∨ IsLine r.code
  keys : ∀ detail ∈ r.context, IsKey detail.1
  values : ∀ detail ∈ r.context, IsLine detail.2
  suggestions : ∀ suggestion ∈ r.suggestions, IsLine suggestion

/-! ## Parts that are lines -/

theorem IsLine.not_mem_display {v : Value} (h : IsLine v) : '\n' ∉ v.display.toList := by
  cases h with
  | text hline => exact hline

theorem IsLine.eq_of_display {v w : Value} (hv : IsLine v) (hw : IsLine w)
    (h : v.display = w.display) : v = w := by
  cases hv with
  | text _ =>
      cases hw with
      | text _ => exact congrArg Value.text h

theorem IsKey.not_mem_display {k : Scalar} (h : IsKey k) : '\n' ∉ k.display.toList := by
  cases h with
  | text hline _ => exact hline

theorem IsKey.colon_not_mem_display {k : Scalar} (h : IsKey k) : ':' ∉ k.display.toList := by
  cases h with
  | text _ hcolon => exact hcolon

theorem IsKey.eq_of_display {k l : Scalar} (hk : IsKey k) (hl : IsKey l)
    (h : k.display = l.display) : k = l := by
  cases hk with
  | text _ _ =>
      cases hl with
      | text _ _ => exact congrArg Scalar.text h

/-! ## Lines of a report -/

/-- The line of a detail. -/
def detailLine (detail : Scalar × Value) : String :=
  "  " ++ detail.1.display ++ ": " ++ detail.2.display

/-- The line of a suggestion. -/
def suggestionLine (suggestion : Value) : String :=
  "  • " ++ suggestion.display

/-- The lines of a section: nothing without items, and otherwise its title and the lines of them. -/
def itemLines {α : Type} (title : String) (line : α → String) (items : List α) : List String :=
  if items.isEmpty then [] else title :: items.map line

theorem contextLines_eq (context : Entries) :
    contextLines context = itemLines "Context:" detailLine context := rfl

theorem suggestionLines_eq (suggestions : List Value) :
    suggestionLines suggestions = itemLines "Suggestions:" suggestionLine suggestions := rfl

theorem eq_of_mem_codeLines {code : Value} {line : String} (h : line ∈ codeLines code) :
    code.truthy = true ∧ line = "Error Code: " ++ code.display := by
  rw [codeLines] at h
  split at h
  · next htruthy => exact ⟨htruthy, List.mem_singleton.1 h⟩
  · exact absurd h List.not_mem_nil

section Items

variable {α : Type} {title : String} {line : α → String} {items : List α}

theorem eq_of_mem_itemLines {l : String} (h : l ∈ itemLines title line items) :
    l = title ∨ ∃ item ∈ items, l = line item := by
  rw [itemLines] at h
  split at h
  · exact absurd h List.not_mem_nil
  · rw [List.mem_cons, List.mem_map] at h
    exact h.imp_right fun ⟨item, hmem, hline⟩ => ⟨item, hmem, hline.symm⟩

theorem eq_of_mem_head?_itemLines {l : String} (h : l ∈ (itemLines title line items).head?) :
    l = title := by
  rw [itemLines] at h
  split at h
  · cases h
  · exact (Option.some.inj h).symm

/-- A section tells its items when each of their lines does. -/
theorem itemLines_inj {p : α → Prop} (hline : ∀ x y, p x → p y → line x = line y → x = y)
    {more : List α} (hitems : ∀ x ∈ items, p x) (hmore : ∀ y ∈ more, p y)
    (h : itemLines title line items = itemLines title line more) : items = more := by
  have hmap : ∀ items, (itemLines title line items).tail = items.map line := by
    intro items
    cases items <;> rfl
  have hlines : items.map line = more.map line := by rw [← hmap, h, hmap]
  clear h
  induction items generalizing more with
  | nil => exact (List.map_eq_nil_iff.1 hlines.symm).symm
  | cons x rest ih =>
      cases more with
      | nil => cases hlines
      | cons y more =>
          obtain ⟨hx, hrest⟩ := List.forall_mem_cons.1 hitems
          obtain ⟨hy, hmore⟩ := List.forall_mem_cons.1 hmore
          obtain ⟨hfirst, htail⟩ := List.cons.inj hlines
          rw [hline x y hx hy hfirst, ih hrest hmore htail]

end Items

/-- No line of a report has a line break in it. -/
theorem OfLines.not_mem_lines {r : Report} (h : r.OfLines) {line : String}
    (hline : line ∈ r.lines) : '\n' ∉ line.toList := by
  rw [lines, List.mem_cons, List.mem_append, List.mem_append] at hline
  rcases hline with rfl | (hline | hline) | hline
  · exact h.message.not_mem_display
  · obtain ⟨htruthy, rfl⟩ := eq_of_mem_codeLines hline
    rcases h.code with hnull | hcode
    · rw [hnull] at htruthy
      cases htruthy
    · simp [hcode.not_mem_display]
  · rw [contextLines_eq] at hline
    rcases eq_of_mem_itemLines hline with rfl | ⟨detail, hmem, rfl⟩
    · decide
    · have hkey := (h.keys detail hmem).not_mem_display
      have hvalue := (h.values detail hmem).not_mem_display
      simp [detailLine, hkey, hvalue]
  · rw [suggestionLines_eq] at hline
    rcases eq_of_mem_itemLines hline with rfl | ⟨suggestion, hmem, rfl⟩
    · decide
    · simp [suggestionLine, (h.suggestions suggestion hmem).not_mem_display]

/-- Lines that are joined by line breaks can be told apart. -/
theorem joined_inj {lines more : List String} (hne : lines ≠ []) (hne' : more ≠ [])
    (hlines : ∀ line ∈ lines, '\n' ∉ line.toList) (hmore : ∀ line ∈ more, '\n' ∉ line.toList)
    (h : "\n".intercalate lines = "\n".intercalate more) : lines = more := by
  have hsplit : ∀ {ls : List String}, ls ≠ [] → (∀ line ∈ ls, '\n' ∉ line.toList) →
      ("\n".intercalate ls).toList.splitOn '\n' = ls.map String.toList := by
    intro ls hne hls
    rw [String.toList_intercalate]
    exact List.splitOn_intercalate '\n' (by simpa using hls) (by simpa using hne)
  refine (List.map_inj_right fun _ _ => String.toList_inj.1).1 ?_
  rw [← hsplit hne hlines, h, hsplit hne' hmore]

/-! ## Sections -/

/-- A line begins with a character. -/
def Starts (c : Char) (line : String) : Bool :=
  line.toList.head? == some c

theorem starts_of_mem_codeLines {code : Value} {line : String} (h : line ∈ codeLines code) :
    Starts 'E' line = true := by
  obtain ⟨-, rfl⟩ := eq_of_mem_codeLines h
  simp [Starts]

theorem not_starts_of_mem_contextLines {context : Entries} {line : String}
    (h : line ∈ contextLines context) : Starts 'S' line = false := by
  rw [contextLines_eq] at h
  rcases eq_of_mem_itemLines h with rfl | ⟨detail, -, rfl⟩
  · decide
  · simp [Starts, detailLine]

theorem starts_of_mem_head?_suggestionLines {suggestions : List Value} {line : String}
    (h : line ∈ (suggestionLines suggestions).head?) : Starts 'S' line = true := by
  rw [eq_of_mem_head?_itemLines h]
  decide

/-- Behind the line of the code there is none that begins like it. -/
theorem not_starts_of_mem_head? {context : Entries} {suggestions : List Value} {line : String}
    (h : line ∈ (contextLines context ++ suggestionLines suggestions).head?) :
    Starts 'E' line = false := by
  rw [List.head?_append, Option.mem_def, Option.or_eq_some_iff] at h
  rcases h with h | ⟨-, h⟩
  · rw [eq_of_mem_head?_itemLines h]
    decide
  · rw [eq_of_mem_head?_itemLines h]
    decide

/-- The sections of a report can be told apart. -/
theorem sections_inj {r r' : Report} (h : r.lines = r'.lines) :
    r.message.display = r'.message.display ∧ codeLines r.code = codeLines r'.code ∧
      contextLines r.context = contextLines r'.context ∧
      suggestionLines r.suggestions = suggestionLines r'.suggestions := by
  rw [lines, lines, List.append_assoc, List.append_assoc] at h
  obtain ⟨hmessage, hrest⟩ := List.cons.inj h
  obtain ⟨hcode, hrest⟩ := Text.run_append_inj (q := Starts 'E')
    (fun _ => starts_of_mem_codeLines) (fun _ => starts_of_mem_codeLines)
    (fun _ => not_starts_of_mem_head?) (fun _ => not_starts_of_mem_head?) hrest
  have hcontext : ∀ {context : Entries}, ∀ line ∈ contextLines context,
      (!Starts 'S' line) = true := by
    intro context line hline
    rw [not_starts_of_mem_contextLines hline]
    rfl
  have hsuggestions : ∀ {suggestions : List Value}, ∀ line ∈ (suggestionLines suggestions).head?,
      (!Starts 'S' line) = false := by
    intro suggestions line hline
    rw [starts_of_mem_head?_suggestionLines hline]
    rfl
  exact ⟨hmessage, hcode,
    Text.run_append_inj hcontext hcontext hsuggestions hsuggestions hrest⟩

/-! ## What a section tells -/

/-- A code that counts as false stands for none. -/
theorem noCode_of_not_truthy {code : Value} (h : code = .null ∨ IsLine code)
    (hfalse : code.truthy = false) : NoCode code := by
  rcases h with rfl | h
  · exact .inl rfl
  · cases h with
    | @text s _ =>
        have hempty : (s != "") = false := hfalse
        exact .inr (congrArg Value.text (by simpa using hempty))

theorem NoCode.codeLines_eq_nil {code : Value} (h : NoCode code) : codeLines code = [] := by
  rcases h with rfl | rfl <;> rfl

/-- The lines of a code tell it, as far as there is one. -/
theorem code_of_codeLines {code code' : Value} (hcode : code = .null ∨ IsLine code)
    (hcode' : code' = .null ∨ IsLine code') (h : codeLines code = codeLines code') :
    code = code' ∨ NoCode code ∧ NoCode code' := by
  cases htruthy : code.truthy with
  | false =>
      cases htruthy' : code'.truthy with
      | false =>
          exact .inr ⟨noCode_of_not_truthy hcode htruthy, noCode_of_not_truthy hcode' htruthy'⟩
      | true => simp [codeLines, htruthy, htruthy'] at h
  | true =>
      cases htruthy' : code'.truthy with
      | false => simp [codeLines, htruthy, htruthy'] at h
      | true =>
          have hdisplay : code.display = code'.display := by
            simpa [codeLines, htruthy, htruthy'] using h
          rcases hcode with rfl | hcode
          · cases htruthy
          · rcases hcode' with rfl | hcode'
            · cases htruthy'
            · exact .inl (hcode.eq_of_display hcode' hdisplay)

/-- The line of a detail tells its key, which ends before the first colon, and its value. -/
theorem detailLine_inj {detail detail' : Scalar × Value} (hkey : IsKey detail.1)
    (hkey' : IsKey detail'.1) (hvalue : IsLine detail.2) (hvalue' : IsLine detail'.2)
    (h : detailLine detail = detailLine detail') : detail = detail' := by
  have hletters : detail.1.display.toList ++ ':' :: ' ' :: detail.2.display.toList =
      detail'.1.display.toList ++ ':' :: ' ' :: detail'.2.display.toList := by
    have hlines := congrArg String.toList h
    simpa [detailLine] using hlines
  have hbefore : ∀ {k : Scalar}, IsKey k → ∀ c ∈ k.display.toList, (c != ':') = true := by
    intro k hk c hc
    rw [bne_iff_ne]
    rintro rfl
    exact hk.colon_not_mem_display hc
  obtain ⟨hkeys, hvalues⟩ := Text.run_append_inj (hbefore hkey) (hbefore hkey') (by simp) (by simp)
    hletters
  have hdisplay : detail.2.display.toList = detail'.2.display.toList := by simpa using hvalues
  exact Prod.ext (hkey.eq_of_display hkey' (String.toList_inj.1 hkeys))
    (hvalue.eq_of_display hvalue' (String.toList_inj.1 hdisplay))

theorem suggestionLine_inj {suggestion suggestion' : Value} (h : IsLine suggestion)
    (h' : IsLine suggestion') (hlines : suggestionLine suggestion = suggestionLine suggestion') :
    suggestion = suggestion' :=
  h.eq_of_display h' (by simpa [suggestionLine] using hlines)

/-- Reports whose parts are lines have the same text exactly when they have the same message, the
same code as far as there is one, the same details and the same suggestions. -/
theorem render_eq_render_iff {r r' : Report} (h : r.OfLines) (h' : r'.OfLines) :
    r.render = r'.render ↔ r.message = r'.message ∧
      (r.code = r'.code ∨ NoCode r.code ∧ NoCode r'.code) ∧
      r.context = r'.context ∧ r.suggestions = r'.suggestions := by
  constructor
  · intro hrender
    have hlines : r.lines = r'.lines :=
      joined_inj (List.cons_ne_nil _ _) (List.cons_ne_nil _ _) (fun _ => h.not_mem_lines)
        (fun _ => h'.not_mem_lines) hrender
    obtain ⟨hmessage, hcode, hcontext, hsuggestions⟩ := sections_inj hlines
    refine ⟨h.message.eq_of_display h'.message hmessage, code_of_codeLines h.code h'.code hcode,
      ?_, itemLines_inj (fun _ _ => suggestionLine_inj) h.suggestions h'.suggestions hsuggestions⟩
    exact itemLines_inj (p := fun detail => IsKey detail.1 ∧ IsLine detail.2)
      (fun _ _ hx hy => detailLine_inj hx.1 hy.1 hx.2 hy.2)
      (fun detail hmem => ⟨h.keys detail hmem, h.values detail hmem⟩)
      (fun detail hmem => ⟨h'.keys detail hmem, h'.values detail hmem⟩) hcontext
  · rintro ⟨hmessage, hcode, hcontext, hsuggestions⟩
    have hlines : codeLines r.code = codeLines r'.code := by
      rcases hcode with hsame | ⟨hnone, hnone'⟩
      · rw [hsame]
      · rw [hnone.codeLines_eq_nil, hnone'.codeLines_eq_nil]
    rw [render, render, lines, lines, hmessage, hlines, hcontext, hsuggestions]

/-- A report with a detail that is written like a suggestion. -/
def detailLikeSuggestion : Report :=
  { message := .text "Failed"
    code := .null
    context := [(.text "model", .text "User"), (.text "• Check", .text "the name")]
    suggestions := [] }

/-- A report with a suggestion that is written like a detail. -/
def suggestionLikeDetail : Report :=
  { message := .text "Failed"
    code := .text ""
    context := [(.text "model", .text "User")]
    suggestions := [.text "Check: the name"] }

/-- The title of the suggestions tells the two reports apart, though their last lines are equal. -/
theorem render_ne_of_equal_last_lines :
    detailLikeSuggestion.lines.getLast? = suggestionLikeDetail.lines.getLast? ∧
      detailLikeSuggestion.render ≠ suggestionLikeDetail.render := by
  have hdetail : detailLikeSuggestion.OfLines :=
    { message := .text (by decide)
      code := .inl rfl
      keys := List.forall_mem_cons.2 ⟨.text (by decide) (by decide),
        List.forall_mem_singleton.2 (.text (by decide) (by decide))⟩
      values := List.forall_mem_cons.2 ⟨.text (by decide),
        List.forall_mem_singleton.2 (.text (by decide))⟩
      suggestions := nofun }
  have hsuggestion : suggestionLikeDetail.OfLines :=
    { message := .text (by decide)
      code := .inr (.text (by decide))
      keys := List.forall_mem_singleton.2 (.text (by decide) (by decide))
      values := List.forall_mem_singleton.2 (.text (by decide))
      suggestions := List.forall_mem_singleton.2 (.text (by decide)) }
  refine ⟨by decide, fun h => ?_⟩
  obtain ⟨-, -, hcontext, -⟩ := (render_eq_render_iff hdetail hsuggestion).1 h
  cases hcontext

end ModelGraph.Report
