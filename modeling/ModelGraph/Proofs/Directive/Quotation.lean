import ModelGraph.Proofs.Directive.Listing
import ModelGraph.Proofs.Text.Ends

/-!
# Statements and the quotations they come from

The statements of a directive are read from its payload, well formed or not. `Quotations` says that
texts are quoted in a payload one behind another, and `quotations_elements` that those of its
elements are. Read `statements_eq_spans` for the places where they stand: no two of them overlap,
and each is between two double quotes of its own. Which elements have a statement is said by
`HasQuotation`.
-/

namespace ModelGraph

namespace Marker

/-! ## Quotations in a text -/

/-- The texts are quoted in `s` one behind another, none of them empty. -/
inductive Quotations : List Char → List (List Char) → Prop
  | nil (s : List Char) : Quotations s []
  | cons (before : List Char) {inner rest : List Char} {texts : List (List Char)}
      (hinner : inner ≠ []) (hrest : Quotations rest texts) :
      Quotations (before ++ (enclosed inner ++ rest)) (inner :: texts)

/-- The text `inner` over the payload alphabet is quoted in `s`, and it is not empty. -/
structure Quotes (s inner : List Char) : Prop where
  occurs : enclosed inner <:+: s
  ne_nil : inner ≠ []
  chars : ∀ c ∈ inner, isPayload c = true

/-- Some text is quoted in `s`. -/
def HasQuotation (s : List Char) : Prop :=
  ∃ inner, Quotes s inner

variable {s t : List Char} {texts more : List (List Char)}

/-- Text in front changes nothing. -/
theorem Quotations.behind (h : Quotations s texts) (front : List Char) :
    Quotations (front ++ s) texts := by
  cases h with
  | nil => exact .nil _
  | cons before hinner hrest =>
      rw [← List.append_assoc]
      exact .cons _ hinner hrest

/-- What is quoted in two texts is quoted in both together. -/
theorem Quotations.append (h : Quotations s texts) (ht : Quotations t more) :
    Quotations (s ++ t) (texts ++ more) := by
  induction h with
  | nil s => exact ht.behind s
  | cons before hinner hrest ih =>
      rw [List.append_assoc, List.append_assoc]
      exact .cons before hinner ih

/-! ## Reading a quotation -/

theorem beforeLastQuote?_eq_some {inner : List Char} (h : beforeLastQuote? s = some inner) :
    inner ≠ [] ∧ ∃ rest, s = inner ++ quoteMark :: rest := by
  unfold beforeLastQuote? at h
  split at h
  · next last c r hdrop =>
      cases h
      have hlast : last = quoteMark := by
        simpa [hdrop] using Text.head?_dropWhile_not (· != quoteMark) s.reverse
      have hreverse := List.takeWhile_append_dropWhile (p := (· != quoteMark)) (l := s.reverse)
      rw [hdrop, hlast] at hreverse
      refine ⟨by simp, (s.reverse.takeWhile (· != quoteMark)).reverse, ?_⟩
      simpa using (congrArg List.reverse hreverse).symm
  · cases h

/-- There is something before the last double quote when there is something before one. -/
theorem isSome_beforeLastQuote? {inner : List Char} (hinner : inner ≠ []) (rest : List Char) :
    (beforeLastQuote? (inner ++ quoteMark :: rest)).isSome = true := by
  have hlength : 2 ≤ ((inner ++ quoteMark :: rest).reverse.dropWhile (· != quoteMark)).length := by
    have hpos := List.length_pos_of_ne_nil hinner
    rw [List.reverse_append, List.reverse_cons, List.append_assoc, List.dropWhile_append]
    split <;> simp <;> omega
  unfold beforeLastQuote?
  generalize (inner ++ quoteMark :: rest).reverse.dropWhile (· != quoteMark) = left at hlength
  match left, hlength with
  | _ :: _ :: _, _ => rfl

/-- What is read as a quotation is one. -/
theorem quoted?_eq_some {inner : List Char} (h : quoted? s = some inner) : Quotes s inner := by
  induction s with
  | nil => cases h
  | cons c r ih =>
      have hbehind : quoted? r = some inner → Quotes (c :: r) inner := fun hr =>
        { ih hr with occurs := (ih hr).occurs.trans (List.suffix_cons c r).isInfix }
      rw [quoted?] at h
      split at h
      · next hc =>
          subst hc
          split at h
          · next found hfound =>
              cases h
              obtain ⟨hne, rest, hrun⟩ := beforeLastQuote?_eq_some hfound
              have hr := List.takeWhile_append_dropWhile (p := isPayload) (l := r)
              refine ⟨⟨[], rest ++ r.dropWhile isPayload, ?_⟩, hne, fun d hd => ?_⟩
              · conv_rhs => rw [← hr, hrun]
                simp [enclosed]
              · have hmem : d ∈ r.takeWhile isPayload := by simp [hrun, hd]
                exact List.mem_takeWhile_imp hmem
          · exact hbehind h
      · exact hbehind h

/-- A quotation is read in every text that has one. -/
theorem isSome_quoted?_iff : (quoted? s).isSome = true ↔ HasQuotation s := by
  constructor
  · intro h
    obtain ⟨inner, hinner⟩ := Option.isSome_iff_exists.1 h
    exact ⟨inner, quoted?_eq_some hinner⟩
  · rintro ⟨inner, ⟨before, rest, rfl⟩, hne, hchars⟩
    rw [List.append_assoc]
    induction before with
    | nil =>
        have hrun : (inner ++ quoteMark :: rest).takeWhile isPayload =
            inner ++ quoteMark :: rest.takeWhile isPayload := by
          rw [List.takeWhile_append_of_pos hchars]
          simp [show isPayload quoteMark = true by decide]
        obtain ⟨found, hfound⟩ :=
          Option.isSome_iff_exists.1 (isSome_beforeLastQuote? hne (rest.takeWhile isPayload))
        simp [enclosed, quoted?, hrun, hfound]
    | cons c before ih =>
        rw [List.cons_append, quoted?]
        split
        · split
          · rfl
          · exact ih
        · exact ih

instance (s : List Char) : Decidable (HasQuotation s) :=
  decidable_of_iff _ isSome_quoted?_iff

/-- The blanks at the ends of a text are in no quotation. -/
theorem hasQuotation_trim_iff : HasQuotation (Text.trim s) ↔ HasQuotation s := by
  constructor
  · rintro ⟨inner, hinner⟩
    exact ⟨inner, { hinner with occurs := hinner.occurs.trans (Text.trim_infix s) }⟩
  · rintro ⟨inner, ⟨before, rest, rfl⟩, hne, hchars⟩
    refine ⟨inner, ⟨before.dropWhile Text.isBlank, Text.dropRightWhile Text.isBlank rest, ?_⟩, hne,
      hchars⟩
    have hfront := Text.dropWhile_append_cons before (inner ++ quoteMark :: rest)
      not_isBlank_quoteMark
    have hback := Text.dropRightWhile_append_cons
      (before.dropWhile Text.isBlank ++ quoteMark :: inner) rest not_isBlank_quoteMark
    simp only [enclosed, List.cons_append, List.append_assoc, List.nil_append] at hfront hback ⊢
    rw [Text.trim, hfront, hback]

/-! ## The quotations of the elements -/

/-- The text that is quoted in an element, if there is one. -/
def quotation? (element : List Char) : Option (List Char) :=
  quoted? (Text.trim element)

theorem isSome_quotation?_iff : (quotation? s).isSome = true ↔ HasQuotation s :=
  isSome_quoted?_iff.trans hasQuotation_trim_iff

/-- The statements of a payload are the quotations of its elements with single quotes. -/
theorem statements_eq_map (payload : List Char) :
    statements payload = ((elements false payload).filterMap quotation?).map singleQuoted := by
  rw [List.map_filterMap]
  rfl

/-- The quotation of an element is quoted in it. -/
theorem quotations_of_quotation? (element : List Char) :
    Quotations element (quotation? element).toList := by
  cases h : quotation? element with
  | none => exact .nil _
  | some inner =>
      have hquoted := quoted?_eq_some h
      obtain ⟨before, rest, rfl⟩ := hquoted.occurs.trans (Text.trim_infix element)
      rw [List.append_assoc]
      exact .cons before hquoted.ne_nil (.nil rest)

theorem filterMap_quotation?_cons (element : List Char) (others : List (List Char)) :
    (element :: others).filterMap quotation? =
      (quotation? element).toList ++ others.filterMap quotation? := by
  cases h : quotation? element <;> simp [h]

/-- The first element stands at the front of a payload, behind blanks that are passed over, and the
quotations of the others are quoted behind it. -/
theorem exists_first_element (skipping : Bool) (s : List Char) :
    ∃ lead first others rest, elements skipping s = first :: others ∧
      s = lead ++ (first ++ rest) ∧ (skipping = false → lead = []) ∧
      Quotations rest (others.filterMap quotation?) := by
  fun_induction elements skipping s with
  | case1 skipping => exact ⟨[], [], [], [], rfl, rfl, fun _ => rfl, .nil _⟩
  | case2 skipping c r hskip ih =>
      obtain ⟨lead, first, others, rest, helements, rfl, -, hrest⟩ := ih
      refine ⟨c :: lead, first, others, rest, helements, rfl, fun hfalse => ?_, hrest⟩
      simp [hfalse] at hskip
  | case3 skipping c r _ hcomma ih =>
      obtain ⟨lead, first, others, rest, helements, hr, -, hrest⟩ := ih
      refine ⟨[], [], elements true r, c :: r, rfl, rfl, fun _ => rfl, ?_⟩
      -- Behind the comma stand the quotation of the next element and those of the ones after it.
      rw [helements, filterMap_quotation?_cons, hr]
      exact (((quotations_of_quotation? first).append hrest).behind lead).behind [c]
  | case4 skipping c r _ _ hnone ih =>
      obtain ⟨lead, first, others, rest, helements, -⟩ := ih
      rw [helements] at hnone
      cases hnone
  | case5 skipping c r _ _ first others hsome ih =>
      obtain ⟨lead, first', others', rest, helements, hr, hlead, hrest⟩ := ih
      cases helements.symm.trans hsome
      obtain rfl : lead = [] := hlead rfl
      exact ⟨[], c :: first, others, rest, rfl, by simp [hr], fun _ => rfl, hrest⟩

/-- The quotations of the elements of a payload are quoted in it in their order. -/
theorem quotations_elements (payload : List Char) :
    Quotations payload ((elements false payload).filterMap quotation?) := by
  obtain ⟨lead, first, others, rest, helements, hpayload, hlead, hrest⟩ :=
    exists_first_element false payload
  obtain rfl : lead = [] := hlead rfl
  rw [helements, filterMap_quotation?_cons, hpayload]
  exact (quotations_of_quotation? first).append hrest

/-! ## Where the quotations stand -/

/-- A stretch of a text: from `start` up to, but not including, `stop`. -/
structure Span where
  start : Nat
  stop : Nat

namespace Span

/-- The text of a stretch of `s`. -/
def text (s : List Char) (span : Span) : List Char :=
  s.extract span.start span.stop

/-- A stretch of `s` is not empty, and double quotes stand right before and right after it. -/
structure Quoted (s : List Char) (span : Span) : Prop where
  nonempty : span.start < span.stop
  opened : 0 < span.start ∧ s[span.start - 1]? = some quoteMark
  closed : s[span.stop]? = some quoteMark

/-- The stretch when `n` characters are put in front of the text. -/
def shift (n : Nat) (span : Span) : Span :=
  ⟨n + span.start, n + span.stop⟩

theorem text_shift (front s : List Char) (span : Span) :
    (span.shift front.length).text (front ++ s) = span.text s := by
  simp [text, shift, List.drop_length_add_append, Nat.add_sub_add_left]

theorem mem_of_mem_text {s : List Char} {span : Span} {c : Char} (hc : c ∈ span.text s) : c ∈ s :=
  List.mem_of_mem_drop (List.mem_of_mem_take hc)

/-- There is something between the double quotes. -/
theorem Quoted.text_ne_nil {s : List Char} {span : Span} (h : span.Quoted s) :
    span.text s ≠ [] := by
  have hstop := (List.getElem?_eq_some_iff.1 h.closed).1
  have hnonempty := h.nonempty
  rw [← List.length_pos_iff]
  simp only [text, List.extract_eq_take_drop, List.length_take, List.length_drop]
  omega

theorem Quoted.shift {s : List Char} {span : Span} (h : span.Quoted s) (front : List Char) :
    (span.shift front.length).Quoted (front ++ s) := by
  have hpos := h.opened.1
  have hstart : front.length + span.start - 1 = front.length + (span.start - 1) := by omega
  refine ⟨Nat.add_lt_add_left h.nonempty _, ⟨Nat.add_pos_right _ hpos, ?_⟩, ?_⟩
  · rw [Span.shift, hstart, List.getElem?_append_right (Nat.le_add_right ..),
      Nat.add_sub_cancel_left]
    exact h.opened.2
  · rw [Span.shift, List.getElem?_append_right (Nat.le_add_right ..), Nat.add_sub_cancel_left]
    exact h.closed

/-- The stretch of a quotation behind some text. -/
def ofQuotation (before inner : List Char) : Span :=
  ⟨before.length + 1, before.length + 1 + inner.length⟩

theorem text_ofQuotation (before inner rest : List Char) :
    (ofQuotation before inner).text (before ++ (enclosed inner ++ rest)) = inner := by
  simp [text, ofQuotation, enclosed, List.drop_length_add_append]

theorem quoted_ofQuotation (before : List Char) {inner : List Char} (hinner : inner ≠ [])
    (rest : List Char) :
    (ofQuotation before inner).Quoted (before ++ (enclosed inner ++ rest)) := by
  refine ⟨Nat.lt_add_of_pos_right (List.length_pos_of_ne_nil hinner), ⟨Nat.succ_pos _, ?_⟩, ?_⟩
  · simp [ofQuotation, enclosed]
  · simp [ofQuotation, enclosed, Nat.add_assoc, Nat.add_comm 1]

end Span

/-- Texts that are quoted one behind another have stretches with double quotes of their own. -/
theorem Quotations.exists_spans (h : Quotations s texts) :
    ∃ spans : List Span, texts = spans.map (Span.text s) ∧ (∀ span ∈ spans, span.Quoted s) ∧
      spans.Pairwise fun left right => left.stop + 1 < right.start := by
  induction h with
  | nil s => exact ⟨[], rfl, by simp, .nil⟩
  | @cons before inner rest texts hinner _ ih =>
      obtain ⟨spans, rfl, hquoted, hapart⟩ := ih
      let front := before ++ enclosed inner
      have hlength : front.length = before.length + (inner.length + 2) := by simp [front, enclosed]
      have hwhole : before ++ (enclosed inner ++ rest) = front ++ rest :=
        (List.append_assoc ..).symm
      refine ⟨.ofQuotation before inner :: spans.map (Span.shift front.length), ?_, ?_, ?_⟩
      · rw [List.map_cons, Span.text_ofQuotation, hwhole, List.map_map]
        exact congrArg _ (List.map_congr_left fun span _ => (Span.text_shift front rest span).symm)
      · refine List.forall_mem_cons.2 ⟨Span.quoted_ofQuotation before hinner rest, ?_⟩
        rw [hwhole, List.forall_mem_map]
        exact fun span hspan => (hquoted span hspan).shift front
      · refine List.pairwise_cons.2 ⟨List.forall_mem_map.2 fun span hspan => ?_, ?_⟩
        · have hpos := (hquoted span hspan).opened.1
          simp only [Span.ofQuotation, Span.shift, hlength]
          omega
        · rw [List.pairwise_map]
          exact hapart.imp fun hlt => by simp only [Span.shift]; omega

/-- The statements of a payload are the texts of stretches of it that do not overlap, with single
quotes in place of double ones. -/
theorem statements_eq_spans (payload : List Char) :
    ∃ spans : List Span, (spans.Pairwise fun left right => left.stop + 1 < right.start) ∧
      (∀ span ∈ spans, span.Quoted payload) ∧
      statements payload = spans.map fun span => singleQuoted (span.text payload) := by
  obtain ⟨spans, htexts, hquoted, hapart⟩ := (quotations_elements payload).exists_spans
  exact ⟨spans, hapart, hquoted, by rw [statements_eq_map, htexts, List.map_map]; rfl⟩

/-- There are as many statements as elements with a quotation. -/
theorem length_statements (payload : List Char) :
    (statements payload).length =
      (elements false payload).countP fun element => HasQuotation element := by
  rw [statements_eq_map, List.length_map, List.length_filterMap_eq_countP]
  exact List.countP_congr fun element _ => by rw [isSome_quotation?_iff, decide_eq_true_iff]

/-- A statement has payload characters only, and no double quote. -/
theorem isPayload_of_mem_singleQuoted {c : Char} (hs : ∀ d ∈ s, isPayload d = true)
    (hc : c ∈ singleQuoted s) : isPayload c = true ∧ c ≠ quoteMark := by
  obtain ⟨d, hd, rfl⟩ := List.mem_map.1 hc
  split
  · decide
  · next hne => exact ⟨hs d hd, hne⟩

/-- What the payload alphabet keeps out of a statement. -/
theorem notMem_of_isPayload {c : Char} (hc : isPayload c = true) : c ∉ "\n()[]\\".toList := by
  have hall : ("\n()[]\\".toList.all fun d => !isPayload d) = true := by decide
  intro hmem
  simpa [hc] using List.all_eq_true.1 hall c hmem

end Marker

open Marker

/-- A directive comes from the first marker of a text, which has the known tag. -/
theorem Directive.exists_first_of_extract {documentation : Option String} {model : String}
    {directive : Directive} (h : extract documentation model = .ok (some directive)) :
    ∃ text before m rest, documentation = some text ∧ StandsFirst text.toList before m rest ∧
      m.tag = importTag.toList ∧
      directive.statements = (Marker.statements m.payload).map String.ofList := by
  cases documentation with
  | none => cases h
  | some text =>
      by_cases hmarked : Marked text.toList
      · obtain ⟨before, m, rest, hfirst⟩ := hmarked.exists_first
        rw [extract_of_first hfirst] at h
        split at h
        · next htag =>
            cases h
            exact ⟨text, before, m, rest, rfl, hfirst, htag, rfl⟩
        · cases h
      · rw [extract_of_not_marked hmarked] at h
        cases h

/-- The statements of a directive are pieces of the payload of its marker, whether that is well
formed or not. They stand there in their order, each in double quotes of its own, and double quotes
inside them become single ones; each element of the payload that quotes something has one. So no
statement is empty, and none has a character that a payload cannot have, or a double quote. -/
theorem Directive.statements_stand_in_payload {documentation : Option String} {model : String}
    {directive : Directive} (h : extract documentation model = .ok (some directive)) :
    ∃ text before m rest, documentation = some text ∧ StandsFirst text.toList before m rest ∧
      m.tag = importTag.toList ∧
      (∃ spans : List Span, (spans.Pairwise fun left right => left.stop + 1 < right.start) ∧
        (∀ span ∈ spans, span.Quoted m.payload) ∧
        directive.statements =
          spans.map fun span => String.ofList (singleQuoted (span.text m.payload))) ∧
      directive.statements.length =
        ((elements false m.payload).countP fun element => HasQuotation element) ∧
      ∀ statement ∈ directive.statements, statement ≠ "" ∧ ∀ c ∈ statement.toList,
        isPayload c = true ∧ c ≠ '\x22' ∧ c ∉ "\n()[]\\".toList := by
  obtain ⟨text, before, m, rest, htext, hfirst, htag, hstatements⟩ := exists_first_of_extract h
  obtain ⟨spans, hapart, hquoted, hspans⟩ := statements_eq_spans m.payload
  have hlist : directive.statements =
      spans.map fun span => String.ofList (singleQuoted (span.text m.payload)) := by
    rw [hstatements, hspans, List.map_map]
    rfl
  refine ⟨text, before, m, rest, htext, hfirst, htag, ⟨spans, hapart, hquoted, hlist⟩, ?_, ?_⟩
  · rw [hstatements, List.length_map, length_statements]
  · rw [hlist, List.forall_mem_map]
    intro span hspan
    have hchars : ∀ c ∈ span.text m.payload, isPayload c = true := fun c hc =>
      hfirst.wellFormed.payload_chars c (Span.mem_of_mem_text hc)
    refine ⟨?_, fun c hc => ?_⟩
    · simpa [singleQuoted] using (hquoted span hspan).text_ne_nil
    · obtain ⟨hpayload, hne⟩ := isPayload_of_mem_singleQuoted hchars (by simpa using hc)
      exact ⟨hpayload, hne, notMem_of_isPayload hpayload⟩

/-- Of a payload with text around its quotations, with nothing between quotes, with two quotations
in one element and with an open quote, these statements are left. -/
theorem Directive.statements_of_malformed :
    ∃ directive, extract (some "see @zod.import([x \"a\" b, \"\", \"c\" \"d\", \" e])") "User" =
        .ok (some directive) ∧
      directive.statements = ["a", "c' 'd"] ∧
      ∀ statement ∈ directive.statements, statement ≠ "" ∧ ∀ c ∈ statement.toList,
        isPayload c = true ∧ c ≠ '\x22' ∧ c ∉ "\n()[]\\".toList := by
  have hfirst : StandsFirst "see @zod.import([x \"a\" b, \"\", \"c\" \"d\", \" e])".toList
      "see ".toList ⟨"import".toList, "x \"a\" b, \"\", \"c\" \"d\", \" e".toList⟩ [] :=
    find?_eq_some_iff.1 (by decide +kernel)
  have hextract := extract_of_import hfirst rfl "User"
  obtain ⟨_, _, _, _, -, -, -, -, -, hchars⟩ := statements_stand_in_payload hextract
  exact ⟨_, hextract, by decide +kernel, hchars⟩

end ModelGraph
