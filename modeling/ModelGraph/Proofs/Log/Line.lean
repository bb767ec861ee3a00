import Mathlib.Data.List.Defs
import ModelGraph.Log.Painter
import ModelGraph.Proofs.Validation.Keys

/-!
# Lines of layouts

A template of characters and named texts is filled piece by piece (`Template.render_of_shows`). The
default layout is one: it puts the name of the level in front of the message. It fits every event
that has a message, so a painter with this layout has a line for each of them
(`Painter.line_default`).
-/

namespace ModelGraph.Template

theorem place_zero (leftAligned : Bool) (s : String) : place leftAligned 0 s = s := by
  have hgap : run (0 - s.length) ' ' = "" := by
    rw [Nat.zero_sub]
    rfl
  unfold place
  rw [hgap]
  cases leftAligned <;> simp

/-- A conversion that puts in a named value as it is shown. -/
def named (name : String) (index : Nat) : Conversion :=
  { selector := .named name
    flags := flagsOf []
    width := .absent
    precision := .absent
    letter := some 's'
    index }

/-- A text that is shown without a width or a precision is shown as it is. -/
theorem written_text (index : Nat) (s : String) :
    written (flagsOf []) false 0 none 's' index (.text s) = .ok s := by
  simp only [written, true_or, if_true, textUnder, Option.getD_none, place_zero]
  show Except.ok (String.ofList (s.toList.take s.length)) = _
  rw [← String.length_toList, List.take_length, String.ofList_toList]

/-- A named conversion puts in the text with its name, whatever was given before it. -/
theorem conversionText_named {entries : Entries} {name s : String}
    (h : Entries.get? (.text name) entries = some (.text s)) (index : Nat) (pending : List Value) :
    (conversionText (named name index)).run ⟨pending, some entries⟩ =
      .ok (s, ⟨[], some entries⟩) := by
  have hroom : placeSize none < roomLimit := by decide
  simp only [conversionText, named, select, sizeOf, StateT.run_bind, StateT.run_get, h, take,
    StateT.run_pure, pure_bind, StateT.run_set, Option.map_none, hroom, if_true, Option.any_none]
  rw [show written (flagsOf []) ((flagsOf []).leftAligned || false) (placeSize none) none 's' index
    (.text s) = .ok s from written_text index s]
  rfl

/-- What a piece puts into a text: itself if it is a character, or the text with its name. -/
inductive Shows (entries : Entries) : Piece → String → Prop
  | char (c : Char) : Shows entries (.char c) (String.singleton c)
  | named {name s : String} (index : Nat) : Entries.get? (.text name) entries = some (.text s) →
      Shows entries (.conversion (named name index)) s

/-- A piece puts in what it shows, whatever was given before it. -/
theorem Shows.run_pieceText {entries : Entries} {piece : Piece} {s : String}
    (h : Shows entries piece s) (pending : List Value) :
    ∃ rest, (pieceText piece).run ⟨pending, some entries⟩ = .ok (s, ⟨rest, some entries⟩) := by
  cases h with
  | char c => exact ⟨pending, rfl⟩
  | named index hname => exact ⟨[], conversionText_named hname index pending⟩

/-- Pieces put in what they show, one after the other. -/
theorem run_piecesText {entries : Entries} {ps : List Piece} {texts : List String}
    (h : List.Forall₂ (Shows entries) ps texts) (pending : List Value) :
    ∃ rest, (piecesText ps).run ⟨pending, some entries⟩ =
      .ok (String.join texts, ⟨rest, some entries⟩) := by
  induction h generalizing pending with
  | nil => exact ⟨pending, rfl⟩
  | cons hpiece _ ih =>
      obtain ⟨between, hfirst⟩ := hpiece.run_pieceText pending
      obtain ⟨rest, hrest⟩ := ih between
      refine ⟨rest, ?_⟩
      rw [String.join_cons]
      simp only [piecesText, StateT.run_bind, hfirst]
      simp only [bind, Except.bind, hrest]
      rfl

/-- A template is filled with what its pieces show. -/
theorem render_of_shows {entries : Entries} {template : String} {texts : List String}
    (h : List.Forall₂ (Shows entries) (pieces template) texts) :
    render (.byName entries) template = .ok (String.join texts) := by
  obtain ⟨rest, hrun⟩ := run_piecesText h [.object entries]
  rw [render, Values.supply, hrun]
  rfl

end ModelGraph.Template

namespace ModelGraph.Log

namespace Layout

variable (layout : Layout) (e : Event) (message : String)

/-- A layout is filled with the given message. -/
theorem get?_message : Entries.get? (.text "message") (layout.fields e message) =
    some (.text message) := by
  rw [fields]
  split
  · rw [Entries.get?_put_of_ne (by decide), Entries.get?_put_self]
  · exact Entries.get?_put_self

/-- A layout that asks for the time is filled with that of the event. -/
theorem get?_asctime {layout : Layout} (h : layout.asksForTime = true) :
    Entries.get? (.text "asctime") (layout.fields e message) = some (.text e.time) := by
  rw [fields, if_pos h, Entries.get?_put_self]

/-- Besides the message and the time a layout is filled with what is known of the event. -/
theorem get?_of_ne {name : String} (hmessage : name ≠ "message") (htime : name ≠ "asctime") :
    Entries.get? (.text name) (layout.fields e message) = Entries.get? (.text name) e.fields := by
  rw [fields]
  split
  · rw [Entries.get?_put_of_ne htime, Entries.get?_put_of_ne hmessage]
  · rw [Entries.get?_put_of_ne hmessage]

/-- A layout of characters and named texts is filled with what its pieces show. -/
theorem fill_of_shows {layout : Layout} {e : Event} {message : String} {texts : List String}
    (h : List.Forall₂ (Template.Shows (layout.fields e message)) (Template.pieces layout.template)
      texts) : layout.fill e message = .ok (String.join texts) := by
  rw [fill, Template.render_of_shows h]

/-- The default layout shows the name of the level, a colon and the message. -/
theorem fill_default : default.fill e message = .ok (e.levelName ++ ": " ++ message) := by
  have hpieces : Template.pieces default.template =
      [.conversion (Template.named "levelname" 12), .char ':', .char ' ',
        .conversion (Template.named "message" 25)] := by decide
  have hlevel : Entries.get? (.text "levelname") (default.fields e message) =
      some (.text e.levelName) := get?_of_ne default e message (by decide) (by decide)
  have hshows : List.Forall₂ (Template.Shows (default.fields e message))
      (Template.pieces default.template)
      [e.levelName, String.singleton ':', String.singleton ' ', message] := by
    rw [hpieces]
    exact .cons (.named 12 hlevel) (.cons (.char ':') (.cons (.char ' ')
      (.cons (.named 25 (get?_message default e message)) .nil)))
  have hjoined : String.join [e.levelName, String.singleton ':', String.singleton ' ', message] =
      e.levelName ++ ": " ++ message := by
    rw [← String.toList_inj]
    simp
  rw [fill_of_shows hshows, hjoined]

/-- A filled layout has the texts of the exception and of the calls below it. -/
theorem line_of_fill {layout : Layout} {e : Event} {message text : String}
    (hmessage : e.message = .ok message) (hfill : layout.fill e message = .ok text) :
    layout.line e = .ok (addBelow (addBelow text e.exception) e.stack) := by
  rw [line, hmessage]
  show (layout.fill e message).map _ = _
  rw [hfill]
  rfl

end Layout

/-- A painter with the default layout has a line for every event that has a message. -/
theorem Painter.line_default (coloured : Bool) {e : Event} {message : String}
    (h : e.message = .ok message) :
    (⟨.default, coloured⟩ : Painter).line e =
      .ok ((⟨.default, coloured⟩ : Painter).finish e.levelName message
        (Layout.addBelow (Layout.addBelow (e.levelName ++ ": " ++ message) e.exception)
          e.stack)) := by
  rw [Painter.line, h]
  show (Layout.default.line e).map _ = _
  rw [Layout.line_of_fill h (Layout.fill_default e message)]
  rfl

end ModelGraph.Log
