import Mathlib.Data.List.Basic
import Mathlib.Tactic.ByContra
import Mathlib.Tactic.SplitIfs
import ModelGraph.Proofs.Log.Line

/-!
# Which style a line has

The styles are tried in a fixed order, and a message has the first style that suits it
(`first_eq_some_of`): the levels of warnings and errors come first, then the shapes of messages, and
the level of details comes last. A level goes by its name here, which an event may choose freely; of
the usual names each belongs to one level (`Level.name_eq_iff`). `line_painted` says what this means
for the lines of a painter: a line is left as it is or wrapped in the codes of that style, and it is
wrapped only where colours were wanted and the output was a terminal.
-/

namespace ModelGraph.Log

namespace Level

/-- No two levels share a name, and no level without a name is called like one that has one. -/
theorem name_eq_iff {level named : Level} {s : String} (h : (named, s) ∈ names) :
    name level = s ↔ level = named := by
  have hnames : ∀ entry ∈ names, ∀ other ∈ names, entry.2 = other.2 ↔ entry.1 = other.1 := by
    decide
  have hfront : ∀ entry ∈ names, ¬ "Level ".toList <+: entry.2.toList := by decide
  rw [name]
  cases hlookup : names.lookup level with
  | some found =>
      obtain ⟨before, after, hsplit, -⟩ := List.lookup_eq_some_iff.1 hlookup
      have hfound : (level, found) ∈ names := by
        rw [hsplit]
        exact List.mem_append_right _ List.mem_cons_self
      exact hnames _ hfound _ h
  | none =>
      have hlevel : level ≠ named := fun heq => by
        have hne := List.lookup_eq_none_iff.1 hlookup _ h
        rw [heq] at hne
        simp at hne
      have hname : "Level " ++ toString level ≠ s := by
        rintro rfl
        exact hfront _ h ⟨_, (String.toList_append).symm⟩
      exact iff_of_false hname hlevel

end Level

namespace Style

/-- What a style is for, said of the name of a level and a message. -/
def Suits (levelName message : String) : Style → Prop
  | .warning => levelName = "WARNING"
  | .error => levelName = "ERROR"
  | .critical => levelName = "CRITICAL"
  | .success => successMark.toList <+: message.toList
  | .progress => progressMark.toList <+: message.toList
  | .heading => '=' ∈ message.toList ∧ 20 < (Text.trim message.toList).length
  | .debug => levelName = "DEBUG"
  | .plain => True

instance (levelName message : String) :
    (style : Style) → Decidable (style.Suits levelName message)
  | .warning => inferInstanceAs (Decidable (_ = _))
  | .error => inferInstanceAs (Decidable (_ = _))
  | .critical => inferInstanceAs (Decidable (_ = _))
  | .success => inferInstanceAs (Decidable (_ <+: _))
  | .progress => inferInstanceAs (Decidable (_ <+: _))
  | .heading => inferInstanceAs (Decidable (_ ∧ _))
  | .debug => inferInstanceAs (Decidable (_ = _))
  | .plain => inferInstanceAs (Decidable True)

/-- The order in which the styles are tried. -/
def order : List Style :=
  [.warning, .error, .critical, .success, .progress, .heading, .debug, .plain]

/-- The first style that suits a message of a level. -/
def first (levelName message : String) : Option Style :=
  order.find? fun style => style.Suits levelName message

/-- A message looks like a separator when the style of headings suits it. -/
theorem looksLikeSeparator_iff (levelName message : String) :
    looksLikeSeparator message = true ↔ Suits levelName message .heading := by
  show (_ && _) = true ↔ _ ∧ _
  rw [Bool.and_eq_true, List.contains_iff_mem, decide_eq_true_iff]

/-- A message has the first style that suits it. -/
theorem first_eq_some_of (levelName message : String) :
    first levelName message = some (of levelName message) := by
  have hwarning : levelName = "WARNING" ↔ Suits levelName message .warning := Iff.rfl
  have herror : levelName = "ERROR" ↔ Suits levelName message .error := Iff.rfl
  have hcritical : levelName = "CRITICAL" ↔ Suits levelName message .critical := Iff.rfl
  have hdebug : levelName = "DEBUG" ↔ Suits levelName message .debug := Iff.rfl
  have hsuccess : successMark.toList.isPrefixOf message.toList = true ↔
      Suits levelName message .success := List.isPrefixOf_iff_prefix
  have hprogress : progressMark.toList.isPrefixOf message.toList = true ↔
      Suits levelName message .progress := List.isPrefixOf_iff_prefix
  have hplain : Suits levelName message .plain := trivial
  simp only [first, order, List.find?_cons, of, ofMessage, hwarning, herror, hcritical, hsuccess,
    hprogress, looksLikeSeparator_iff levelName, hdebug]
  split_ifs <;> simp [*]

theorem mem_order (style : Style) : style ∈ order := by
  cases style <;> decide

/-- A message has the plain style when no other style suits it. -/
theorem of_eq_plain_iff {levelName message : String} : of levelName message = .plain ↔
    ∀ style : Style, style.Suits levelName message → style = .plain := by
  have hfirst := first_eq_some_of levelName message
  constructor
  · intro hplain style hsuits
    rw [hplain, first, List.find?_eq_some_iff_append] at hfirst
    obtain ⟨-, before, after, hsplit, hnone⟩ := hfirst
    -- the plain style stands nowhere but at the end of the order
    have hlast : order.dropLast ++ .plain :: [] = before ++ .plain :: after := hsplit
    obtain ⟨rfl, -, rfl⟩ :=
      (List.append_cons_inj_of_notMem (by decide) List.not_mem_nil).1 hlast
    rcases List.mem_append.1 (show style ∈ order.dropLast ++ [.plain] from style.mem_order) with
      hmem | hmem
    · simpa [hsuits] using hnone style hmem
    · exact List.mem_singleton.1 hmem
  · intro hnone
    rw [first] at hfirst
    exact hnone _ (by simpa using List.find?_some hfirst)

/-- Warnings and errors have their own style whatever they say. -/
theorem of_eq_of_severe {levelName message : String} {style : Style}
    (hsevere : style ∈ [warning, error, critical]) (hsuits : style.Suits levelName message) :
    of levelName message = style := by
  have hfirst : first levelName message = some style := by
    simp only [List.mem_cons, List.not_mem_nil, or_false] at hsevere
    rcases hsevere with rfl | rfl | rfl <;>
      · simp only [Suits] at hsuits
        simp [first, order, Suits, hsuits]
  exact Option.some.inj ((first_eq_some_of levelName message).symm.trans hfirst)

/-- Below warnings the shape of a message decides before its level. -/
theorem of_name_of_lt_warning {level : Level} (h : level < Level.warning) (message : String) :
    of (Level.name level) message = ofMessage (Level.name level) message := by
  have hne : ∀ named s, (named, s) ∈ Level.names → Level.warning ≤ named → Level.name level ≠ s :=
    fun named s hnamed hle =>
      (Level.name_eq_iff hnamed).not.2 (Int.ne_of_lt (Int.lt_of_lt_of_le h hle))
  have hwarning : Level.name level ≠ "WARNING" := hne Level.warning _ (by decide) (by decide)
  have herror : Level.name level ≠ "ERROR" := hne Level.error _ (by decide) (by decide)
  have hcritical : Level.name level ≠ "CRITICAL" := hne Level.critical _ (by decide) (by decide)
  rw [of, if_neg hwarning, if_neg herror, if_neg hcritical]

/-! ## Painting -/

theorem codes_injective : Function.Injective codes := by
  have hcodes : ∀ style ∈ order, ∀ other ∈ order, style.codes = other.codes → style = other := by
    decide
  exact fun style other => hcodes style style.mem_order other other.mem_order

theorem paint_of_ne_plain {style : Style} (h : style ≠ .plain) (line : String) :
    style.paint line = style.codes ++ line ++ reset :=
  if_neg h

/-- A line in codes is longer than the line. -/
theorem paint_eq_self_iff {style : Style} {line : String} :
    style.paint line = line ↔ style = .plain := by
  refine ⟨fun h => ?_, fun h => if_pos h⟩
  by_contra hne
  rw [paint_of_ne_plain hne] at h
  have hlength := congrArg String.length h
  simp only [String.length_append] at hlength
  have hreset : reset.length = 4 := rfl
  omega

/-- A painted line tells its style to whom the line is known. -/
theorem paint_inj {style other : Style} {line : String} :
    style.paint line = other.paint line ↔ style = other := by
  refine ⟨fun h => ?_, fun h => by rw [h]⟩
  by_cases hplain : style = .plain
  · rw [paint_eq_self_iff.2 hplain] at h
    rw [hplain, paint_eq_self_iff.1 h.symm]
  · by_cases hother : other = .plain
    · rw [paint_eq_self_iff.2 hother, paint_eq_self_iff] at h
      exact absurd h hplain
    · rw [paint_of_ne_plain hplain, paint_of_ne_plain hother, String.append_left_inj,
        String.append_left_inj] at h
      exact codes_injective h

end Style

namespace Painter

/-- A line that is laid out belongs to a message, and is finished for it. -/
theorem line_of_layout_line {p : Painter} {e : Event} {text : String}
    (h : p.layout.line e = .ok text) :
    ∃ message, e.message = .ok message ∧ p.line e = .ok (p.finish e.levelName message text) := by
  cases hmessage : e.message with
  | error refusal => simp [Layout.line, hmessage] at h
  | ok message =>
      refine ⟨message, rfl, ?_⟩
      rw [line, hmessage]
      show (p.layout.line e).map _ = _
      rw [h]
      rfl

theorem colouredOn_iff {terminal : Option Bool} {wanted : Bool} :
    colouredOn terminal wanted = true ↔ wanted = true ∧ terminal = some true := by
  rw [colouredOn, Bool.and_eq_true]
  cases terminal <;> simp

/-- The layout with the time and the file in front of the message. -/
def dated : Layout :=
  ⟨"%(asctime)s %(filename)s: %(message)s"⟩

/-- An event of a known file is laid out with the time and the file. -/
theorem fill_dated {e : Event} {file : String}
    (hfile : Entries.get? (.text "filename") e.fields = some (.text file)) (message : String) :
    dated.fill e message = .ok (e.time ++ " " ++ file ++ ": " ++ message) := by
  have hpieces : Template.pieces dated.template =
      [.conversion (Template.named "asctime" 10), .char ' ',
        .conversion (Template.named "filename" 23), .char ':', .char ' ',
        .conversion (Template.named "message" 36)] := by decide
  have htime : dated.asksForTime = true := by decide
  have hfound : Entries.get? (.text "filename") (dated.fields e message) = some (.text file) :=
    (Layout.get?_of_ne dated e message (by decide) (by decide)).trans hfile
  have hshows : List.Forall₂ (Template.Shows (dated.fields e message))
      (Template.pieces dated.template)
      [e.time, String.singleton ' ', file, String.singleton ':', String.singleton ' ', message] := by
    rw [hpieces]
    exact .cons (.named 10 (Layout.get?_asctime e message htime)) (.cons (.char ' ')
      (.cons (.named 23 hfound) (.cons (.char ':') (.cons (.char ' ')
        (.cons (.named 36 (Layout.get?_message dated e message)) .nil)))))
  rw [Layout.fill_of_shows hshows]
  congr 1
  rw [← String.toList_inj]
  simp

/-- An event on a mode. Its level is called as one likes, whatever its number is. -/
def onMode (levelName template : String) : Event :=
  { logger := "", level := Level.info, levelName, template, values := [.text "strict"],
    attributes := [("filename", .text "graph.py")], time := "12:00",
    exception := "KeyError\n", stack := "Stack" }

/-- The line of such an event has two texts below it. -/
theorem line_onMode {levelName template message text : String}
    (hmessage : (onMode levelName template).message = .ok message)
    (htext : "12:00" ++ " " ++ "graph.py" ++ ": " ++ message = text) :
    dated.line (onMode levelName template) =
      .ok (Layout.addBelow (Layout.addBelow text "KeyError\n") "Stack") := by
  rw [← htext]
  exact Layout.line_of_fill hmessage (fill_dated rfl message)

/-- Painting leaves the line of a layout as it is or wraps it in codes, and the first style that
suits the message decides which. Without colours, or off a terminal, nothing is wrapped. On a
terminal warnings and errors are wrapped in their own codes, whatever they say, and a line is left
as it is when nothing but the plain style suits its message. -/
theorem line_painted {template : Option String} (terminal : Option Bool) (wanted : Bool)
    {layout : Layout} {e : Event} {text : String}
    (hlayout : Layout.ofRequest template = .ok layout) (htext : layout.line e = .ok text) :
    ∃ p message line, make template terminal wanted = .ok p ∧ e.message = .ok message ∧
      p.line e = .ok line ∧
      (line = text ∨ ∃ style ≠ Style.plain, line = style.codes ++ text ++ Style.reset) ∧
      (line ≠ text → wanted = true ∧ terminal = some true) ∧
      (wanted = true → terminal = some true →
        (∀ style ∈ [Style.warning, .error, .critical], style.Suits e.levelName message →
          line = style.codes ++ text ++ Style.reset) ∧
        (line ≠ text ↔ ∃ style ≠ Style.plain, style.Suits e.levelName message) ∧
        ∀ style ≠ Style.plain, line = style.codes ++ text ++ Style.reset ↔
          Style.first e.levelName message = some style) := by
  have hmake : make template terminal wanted = .ok ⟨layout, colouredOn terminal wanted⟩ := by
    rw [make, hlayout]
    rfl
  obtain ⟨message, hmessage, hline⟩ :=
    line_of_layout_line (p := ⟨layout, colouredOn terminal wanted⟩) htext
  refine ⟨_, message, _, hmake, hmessage, hline, ?_⟩
  rw [finish, ← colouredOn_iff]
  generalize hstyle : Style.of e.levelName message = style
  have hfirst := Style.first_eq_some_of e.levelName message
  rw [hstyle] at hfirst
  cases hcoloured : colouredOn terminal wanted with
  | false =>
      refine ⟨.inl rfl, fun h => absurd rfl h, fun hwanted hterminal => ?_⟩
      rw [colouredOn_iff.2 ⟨hwanted, hterminal⟩] at hcoloured
      cases hcoloured
  | true =>
      simp only [if_true]
      refine ⟨?_, fun _ => trivial, fun _ _ => ⟨?_, ?_, ?_⟩⟩
      · by_cases hplain : style = .plain
        · exact .inl (Style.paint_eq_self_iff.2 hplain)
        · exact .inr ⟨style, hplain, Style.paint_of_ne_plain hplain text⟩
      · intro other hsevere hsuits
        have hsame : style = other := hstyle.symm.trans (Style.of_eq_of_severe hsevere hsuits)
        have hplain : style ≠ .plain := by
          rintro rfl
          simp [← hsame] at hsevere
        rw [Style.paint_of_ne_plain hplain, hsame]
      · rw [ne_eq, Style.paint_eq_self_iff, ← hstyle, Style.of_eq_plain_iff]
        simp only [not_forall, exists_prop, and_comm, ne_eq]
      · intro other hplain
        rw [← Style.paint_of_ne_plain hplain, Style.paint_inj, hfirst, Option.some.injEq]

/-- A warning is painted as such though its message begins with a mark; a message that begins with a
mark is no heading, and a heading no detail. Without any of these nothing is painted. -/
theorem line_painted_of_modes :
    make (some "%(asctime)s %(filename)s: %(message)s") (some true) true = .ok ⟨dated, true⟩ ∧
    (∀ entry ∈
        [("WARNING", "✓ mode=%s", "\x1b[33m12:00 graph.py: ✓ mode=strict"),
          ("ERROR", "→ mode=%s", "\x1b[31m12:00 graph.py: → mode=strict"),
          ("CRITICAL", "mode=%s", "\x1b[35m12:00 graph.py: mode=strict"),
          ("DEBUG", "✓ mode=%s for all models",
            "\x1b[92m\x1b[1m12:00 graph.py: ✓ mode=strict for all models"),
          ("NOTICE", "→ mode=%s for all models",
            "\x1b[94m12:00 graph.py: → mode=strict for all models"),
          ("DEBUG", "mode=%s for all models",
            "\x1b[1m\x1b[96m12:00 graph.py: mode=strict for all models"),
          ("DEBUG", "mode=%s", "\x1b[36m12:00 graph.py: mode=strict")],
      (⟨dated, true⟩ : Painter).line (onMode entry.1 entry.2.1) =
        .ok (entry.2.2 ++ "\nKeyError\nStack\x1b[0m")) ∧
    (⟨dated, true⟩ : Painter).line (onMode "NOTICE" "mode=%s") =
      .ok "12:00 graph.py: mode=strict\nKeyError\nStack" := by
  have hmake : make (some "%(asctime)s %(filename)s: %(message)s") (some true) true =
      .ok ⟨dated, true⟩ := by decide
  have hlines : ∀ levelName template message text,
      (onMode levelName template).message = .ok message →
      dated.line (onMode levelName template) = .ok text →
      ∃ line, (⟨dated, true⟩ : Painter).line (onMode levelName template) = .ok line ∧
        (line ≠ text ↔ ∃ style ≠ Style.plain, style.Suits levelName message) ∧
        ∀ style ≠ Style.plain, line = style.codes ++ text ++ Style.reset ↔
          Style.first levelName message = some style := by
    intro levelName template message text hmessage htext
    have hlayout : Layout.ofRequest (some "%(asctime)s %(filename)s: %(message)s") = .ok dated := by
      decide
    obtain ⟨p, found, line, hp, hfound, hline, -, -, hcoloured⟩ :=
      line_painted (some true) true hlayout htext
    obtain rfl : p = ⟨dated, true⟩ := Except.ok.inj (hp.symm.trans hmake)
    obtain rfl : found = message := Except.ok.inj (hfound.symm.trans hmessage)
    exact ⟨line, hline, (hcoloured rfl rfl).2⟩
  have hstyled : ∀ levelName template message text shown (style : Style),
      (onMode levelName template).message = .ok message →
      "12:00" ++ " " ++ "graph.py" ++ ": " ++ message = text → style ≠ .plain →
      Style.first levelName message = some style →
      style.codes ++ Layout.addBelow (Layout.addBelow text "KeyError\n") "Stack" ++ Style.reset =
        shown →
      (⟨dated, true⟩ : Painter).line (onMode levelName template) = .ok shown := by
    intro levelName template message text shown style hmessage htext hstyle hfirst hshown
    obtain ⟨line, hline, -, hpainted⟩ :=
      hlines levelName template message _ hmessage (line_onMode hmessage htext)
    rw [hline, (hpainted style hstyle).2 hfirst, hshown]
  refine ⟨hmake, ?_, ?_⟩
  · simp only [List.forall_mem_cons, List.not_mem_nil, IsEmpty.forall_iff, implies_true, and_true]
    exact ⟨hstyled _ _ _ _ _ .warning rfl rfl nofun (by decide) (by decide),
      hstyled _ _ _ _ _ .error rfl rfl nofun (by decide) (by decide),
      hstyled _ _ _ _ _ .critical rfl rfl nofun (by decide) (by decide),
      hstyled _ _ _ _ _ .success rfl rfl nofun (by decide) (by decide),
      hstyled _ _ _ _ _ .progress rfl rfl nofun (by decide) (by decide),
      hstyled _ _ _ _ _ .heading rfl rfl nofun (by decide) (by decide),
      hstyled _ _ _ _ _ .debug rfl rfl nofun (by decide) (by decide)⟩
  · have hnone : ∀ style ∈ Style.order, style ≠ .plain → ¬ style.Suits "NOTICE" "mode=strict" := by
      decide
    obtain ⟨line, hline, hplain, -⟩ :=
      hlines "NOTICE" "mode=%s" "mode=strict" _ rfl (line_onMode rfl rfl)
    rw [hline]
    by_contra hne
    obtain ⟨style, hstyle, hsuits⟩ := hplain.1 fun heq => hne (by rw [heq]; decide)
    exact hnone style style.mem_order hstyle hsuits

end Painter

/-! ## Records -/

namespace Record

/-- An event is about a record: it has its level, under the usual name, and its message. -/
structure Tells (r : Record) (e : Event) : Prop where
  level : e.level = r.level
  levelName : e.levelName = Level.name r.level
  template : e.template = r.message
  values : e.values = []

/-- The event of a record of which nothing else is known. -/
def event (r : Record) : Event :=
  { logger := "", level := r.level, template := r.message, values := [] }

theorem tells_event (r : Record) : r.Tells r.event :=
  ⟨rfl, rfl, rfl, rfl⟩

/-- The style of a record. -/
def style (r : Record) : Style :=
  Style.of (Level.name r.level) r.message

/-- With colours every line of a record is painted in a style, whatever the layout and whatever else
is known of the event. -/
def PaintedAs (r : Record) (style : Style) : Prop :=
  ∀ layout e text, r.Tells e → Layout.line layout e = .ok text →
    (⟨layout, true⟩ : Painter).line e = .ok (style.paint text)

/-- A record is painted in its own style and in no other. -/
theorem paintedAs_iff {r : Record} {style : Style} : r.PaintedAs style ↔ r.style = style := by
  have hline : ∀ layout e text, r.Tells e → Layout.line layout e = .ok text →
      (⟨layout, true⟩ : Painter).line e = .ok (r.style.paint text) := by
    intro layout e text htells htext
    have hmessage : e.message = .ok r.message := by
      rw [Event.message, htells.values, htells.template]
      rfl
    obtain ⟨message, hsame, hpainted⟩ := Painter.line_of_layout_line (p := ⟨layout, true⟩) htext
    obtain rfl : message = r.message := Except.ok.inj (hsame.symm.trans hmessage)
    rw [hpainted, htells.levelName]
    rfl
  constructor
  · intro h
    have hdefault : Layout.default.line r.event = .ok (Level.name r.level ++ ": " ++ r.message) :=
      Layout.line_of_fill rfl (Layout.fill_default r.event r.message)
    have hsame := h .default r.event _ r.tells_event hdefault
    rw [hline .default r.event _ r.tells_event hdefault] at hsame
    exact Style.paint_inj.1 (Except.ok.inj hsame)
  · rintro rfl
    exact hline

end Record

end ModelGraph.Log
