import ModelGraph.Options.Read
import ModelGraph.Proofs.Text.Ends
import ModelGraph.Proofs.Validation.Keys
import ModelGraph.Proofs.Validation.Success

/-!
# Options that are read again

A path loses the blanks around it first and slashes after that, once each. The slashes can hide a
blank, which is then bare in the path that was read: it is refused or changed when it is read again.
Options are read again as they are exactly when none of their paths has a blank at its ends, and
this is so exactly when no path that was given hides a blank (`ofValue_toValue_iff`).
-/

namespace ModelGraph.Options

open Validation

/-- An option that is a path. -/
structure PathField where
  key : String
  /-- The path when nothing is said. -/
  fallback : String
  /-- Whether slashes at the front mean nothing. -/
  relative : Bool
  get : Options → String

namespace PathField

/-- The options that are paths. -/
def all : List PathField :=
  [⟨"prisma_client_path", default.clientPath, false, clientPath⟩,
   ⟨"input_type_path", default.inputTypePath, true, inputTypePath⟩,
   ⟨"enum_path", default.enumPath, true, enumPath⟩,
   ⟨"helpers_path", default.helpersPath, true, helpersPath⟩]

/-- What has the last word on a path. -/
def finish (f : PathField) (s : List Char) : List Char :=
  if f.relative then s.dropWhile (· == '/') else s

/-- Once the blanks around a text are gone, there is one behind the slashes at its front, where
these mean nothing, or before the slashes at its end. -/
def Hides (f : PathField) (s : String) : Prop :=
  (f.relative = true ∧ Text.BlankBehind '/' (Text.trim s.toList)) ∨
    Text.BlankBefore '/' (Text.trim s.toList)

/-- What every path that was read is: there is something of it, and no slash to drop. -/
structure Settled (f : PathField) (path : String) : Prop where
  nonempty : path.toList ≠ []
  back : ∀ c ∈ path.toList.getLast?, (c == '/') = false
  front : f.finish path.toList = path.toList

end PathField

/-- A value has a text under a key. -/
def Gives (raw : Value) (key s : String) : Prop :=
  ∃ entries value, raw = .object entries ∧ Entries.get? (.text key) entries = some value ∧
    text value = .ok s

namespace PathField

variable {f : PathField} {s path : String}

/-! ## Reading a path -/

theorem pathOfText_eq_ok_iff {finish : List Char → List Char} :
    pathOfText finish s = .ok path ↔
      pathLetters s.toList ≠ [] ∧ path.toList = finish (pathLetters s.toList) := by
  unfold pathOfText
  split
  · next hnil => simp [hnil]
  · next hne =>
    rw [Checked.ok.injEq, ← String.toList_inj, String.toList_ofList]
    exact ⟨fun h => ⟨hne, h.symm⟩, fun h => h.2.symm⟩

/-- The letters of a path do not end with a slash. -/
theorem getLast?_pathLetters (letters : List Char) :
    ∀ c ∈ (pathLetters letters).getLast?, (c == '/') = false :=
  Text.getLast?_dropRightWhile_not (· == '/') _

theorem finish_finish (letters : List Char) :
    f.finish (f.finish letters) = f.finish letters := by
  unfold finish
  split
  · exact List.dropWhile_idempotent ..
  · rfl

theorem finish_suffix (letters : List Char) : f.finish letters <:+ letters := by
  unfold finish
  split
  · exact List.dropWhile_suffix _
  · exact List.suffix_rfl

/-- The last word leaves something of letters that do not end with a slash, and their end. -/
theorem finish_ends {letters : List Char} (hne : letters ≠ [])
    (hback : ∀ c ∈ letters.getLast?, (c == '/') = false) :
    f.finish letters ≠ [] ∧ (f.finish letters).getLast? = letters.getLast? := by
  unfold finish
  split
  · have hrest : letters.dropWhile (· == '/') ≠ [] := by
      intro hnil
      have hslash := List.dropWhile_eq_nil_iff.1 hnil _ (List.getLast_mem hne)
      rw [hback _ (List.getLast?_eq_some_getLast hne)] at hslash
      cases hslash
    exact ⟨hrest, Text.getLast?_dropWhile hrest⟩
  · exact ⟨hne, rfl⟩

/-- A path that was read is settled. -/
theorem settled_of_pathOfText (h : pathOfText f.finish s = .ok path) : f.Settled path := by
  obtain ⟨hne, hpath⟩ := pathOfText_eq_ok_iff.1 h
  obtain ⟨hrest, hlast⟩ := finish_ends (f := f) hne (getLast?_pathLetters _)
  refine ⟨hpath ▸ hrest, ?_, by rw [hpath, finish_finish]⟩
  rw [hpath, hlast]
  exact getLast?_pathLetters _

/-- Every path that is not given is one that could have been read. -/
theorem pathOfText_fallback : ∀ f ∈ all, pathOfText f.finish f.fallback = .ok f.fallback := by
  simp only [all, List.forall_mem_cons]
  exact ⟨rfl, rfl, rfl, rfl, nofun⟩

theorem tidy_fallback : ∀ f ∈ all, Text.Tidy f.fallback.toList := by
  decide

/-- A settled path is read as itself exactly when it has no blanks at its ends. -/
theorem pathOfText_self_iff (h : f.Settled path) :
    pathOfText f.finish path = .ok path ↔ Text.Tidy path.toList := by
  rw [pathOfText_eq_ok_iff, Text.tidy_iff]
  constructor
  · intro ⟨_, hpath⟩
    -- Each step only drops letters, so none may have dropped any.
    have hkept : path.toList <:+: Text.trim path.toList := by
      conv_lhs => rw [hpath]
      exact (finish_suffix _).isInfix.trans Text.dropRightWhile_prefix.isInfix
    exact ⟨h.nonempty, (Text.trim_infix _).eq_of_length_le hkept.length_le⟩
  · intro ⟨_, htrim⟩
    have hletters : pathLetters path.toList = path.toList := by
      rw [pathLetters, htrim, Text.dropRightWhile_eq_self_iff.2 h.back]
    rw [hletters]
    exact ⟨h.nonempty, h.front.symm⟩

/-- A path that was read has a blank at an end exactly when the text that it was read from hides
one. -/
theorem tidy_iff_of_pathOfText (h : pathOfText f.finish s = .ok path) :
    Text.Tidy path.toList ↔ ¬ f.Hides s := by
  obtain ⟨hne, hpath⟩ := pathOfText_eq_ok_iff.1 h
  have hslash : Text.isBlank '/' = false := by decide
  have hback : (∀ c ∈ path.toList.getLast?, Text.isBlank c = false) ↔
      ¬ Text.BlankBefore '/' (Text.trim s.toList) := by
    rw [hpath, (finish_ends hne (getLast?_pathLetters _)).2, Text.blankBefore_iff hslash]
    simp [pathLetters]
  have hfront : (∀ c ∈ path.toList.head?, Text.isBlank c = false) ↔
      ¬ (f.relative = true ∧ Text.BlankBehind '/' (Text.trim s.toList)) := by
    have hrest := (finish_ends (f := f) hne (getLast?_pathLetters _)).1
    rw [hpath, Text.blankBehind_iff hslash]
    unfold finish at hrest ⊢
    cases hrelative : f.relative with
    | true =>
      simp only [hrelative, if_true] at hrest ⊢
      rw [pathLetters, Text.head?_dropWhile_dropRightWhile hrest]
      simp
    | false =>
      -- Slashes at the front stay, and the blanks before them are gone.
      rw [if_neg Bool.false_ne_true, pathLetters, Text.head?_dropRightWhile hne]
      simpa using (Text.trim_ends s.toList).1
  have hnonempty : path.toList ≠ [] := (settled_of_pathOfText h).nonempty
  rw [Text.tidy_iff, Text.trim_eq_self_iff, hback, hfront, Hides, not_or,
    and_iff_right hnonempty]

end PathField

/-! ## Reading options -/

variable {entries : Entries} {raw : Value} {o : Options} {file : Option String}

/-- Options are read when each of them and all keys can be. -/
theorem readEntries_eq_ok_iff :
    readEntries entries = .ok o ↔
      (∀ f ∈ PathField.all,
        Validation.optional (.single f.key) f.fallback (pathWith f.finish) entries =
          .ok (f.get o)) ∧
      Validation.optional (.single "create_optional_default_values_types")
        default.optionalDefaults flag entries = .ok o.optionalDefaults ∧
      knownKeys entries = .ok () := by
  obtain ⟨client, input, enum, helpers, optionalDefaults⟩ := o
  simp only [PathField.all, List.forall_mem_cons, List.not_mem_nil, false_implies, implies_true,
    readEntries, Checked.seq_eq_ok_iff, Checked.map_eq_ok_iff]
  -- What is left over are the steps in which the options are put together.
  simp only [↓existsAndEq, mk.injEq, true_and, and_true, and_assoc, Unique.exists_iff]
  rfl

/-- Options are read from an object without torn keys. -/
theorem ofValue_eq_ok_iff :
    ofValue raw file = .ok o ↔
      ∃ entries, raw = .object entries ∧ (entries.any fun entry => isTorn entry.1) = false ∧
        readEntries entries = .ok o := by
  rw [ofValue, Checked.toExcept_eq_ok_iff, read, record_eq_ok_iff]
  refine exists_congr fun entries => and_congr_right fun _ => ?_
  unfold readWhole
  split
  · next htorn => simp [htorn]
  · next htorn => simp [htorn]

/-- A path is read from a text. -/
theorem pathWith_eq_ok_iff {finish : List Char → List Char} {value : Value} {path : String} :
    pathWith finish value = .ok path ↔
      ∃ s, text value = .ok s ∧ pathOfText finish s = .ok path := by
  rw [pathWith]
  cases text value <;> simp

/-- A path among options that were read is read from the one text that is given for it, or is the
one that stands for none. -/
theorem exists_pathOfText (h : ofValue raw file = .ok o) {f : PathField}
    (hf : f ∈ PathField.all) :
    ∃ s, pathOfText f.finish s = .ok (f.get o) ∧
      ((∀ t, Gives raw f.key t ↔ t = s) ∨ (s = f.fallback ∧ ∀ t, ¬ Gives raw f.key t)) := by
  obtain ⟨entries, rfl, -, hread⟩ := ofValue_eq_ok_iff.1 h
  have hgives : ∀ t, Gives (.object entries) f.key t ↔
      ∃ value, Entries.get? (.text f.key) entries = some value ∧ text value = .ok t := by
    intro t
    simp [Gives]
  have hpath := (readEntries_eq_ok_iff.1 hread).1 f hf
  simp only [hgives]
  rw [optional_eq_ok_iff, FieldKey.find?_single] at hpath
  cases hget : Entries.get? (.text f.key) entries with
  | none =>
    simp only [hget, Option.map_none, reduceCtorEq, false_and, exists_false, or_false,
      true_and] at hpath
    refine ⟨f.fallback, ?_, .inr ⟨rfl, by simp⟩⟩
    rw [hpath]
    exact PathField.pathOfText_fallback f hf
  | some value =>
    simp only [hget, Option.map_some, Option.some.injEq, Prod.mk.injEq, reduceCtorEq, false_and,
      false_or, ↓existsAndEq, true_and] at hpath
    obtain ⟨s, hs, hpath⟩ := pathWith_eq_ok_iff.1 hpath
    exact ⟨s, hpath, .inl fun t => by simp [hs, eq_comm]⟩

/-- Options are written with all of their paths, with their flag, and under known keys. -/
theorem exists_fields (o : Options) :
    ∃ fields, o.toValue = .record fields ∧
      (∀ f ∈ PathField.all, fields.lookup f.key = some (.text (f.get o))) ∧
      fields.lookup "create_optional_default_values_types" = some (.bool o.optionalDefaults) ∧
      ∀ field ∈ fields, field.1 ∈ keys := by
  refine ⟨_, rfl, ?_, ?_, ?_⟩
  · simp [PathField.all, List.lookup_cons]
  · simp [List.lookup_cons]
  · simp [keys]

/-- Keys are read when each of them is a known text. -/
theorem knownKeys_eq_ok_iff :
    knownKeys entries = .ok () ↔ ∀ entry ∈ entries, ∃ key ∈ keys, entry.1 = .text key := by
  have hone : ∀ entry : Scalar × Value,
      keyViolation? entry = none ↔ ∃ key ∈ keys, entry.1 = .text key := by
    intro entry
    unfold keyViolation?
    split
    · next s hkey => simp [hkey]
    · next key hkey => simpa using fun s _ => hkey s
  simp only [← hone, ← List.filterMap_eq_nil_iff]
  unfold knownKeys
  split
  · next hnil => simp [hnil]
  · next hne => simpa using hne

/-- Known keys have no halves of characters. -/
theorem any_isTorn_of_knownKeys (h : knownKeys entries = .ok ()) :
    (entries.any fun entry => isTorn entry.1) = false := by
  rw [List.any_eq_false]
  intro entry hentry
  obtain ⟨key, -, hkey⟩ := knownKeys_eq_ok_iff.1 h entry hentry
  simp [hkey, isTorn]

/-- An object is read as options when its entries are. -/
theorem ofValue_object_eq_ok_iff :
    ofValue (.object entries) file = .ok o ↔ readEntries entries = .ok o := by
  rw [ofValue_eq_ok_iff]
  constructor
  · rintro ⟨_, ⟨⟩, -, hread⟩
    exact hread
  · intro hread
    exact ⟨entries, rfl, any_isTorn_of_knownKeys (readEntries_eq_ok_iff.1 hread).2.2, hread⟩

/-- Options are read again as they are when each of their paths is. -/
theorem ofValue_toValue_self_iff :
    ofValue o.toValue file = .ok o ↔
      ∀ f ∈ PathField.all, pathOfText f.finish (f.get o) = .ok (f.get o) := by
  obtain ⟨fields, hfields, hpaths, hflag, hkeys⟩ := exists_fields o
  have hread : ∀ f ∈ PathField.all,
      Validation.optional (.single f.key) f.fallback (pathWith f.finish)
          (fields.map fun field => (.text field.1, field.2)) =
        (pathOfText f.finish (f.get o)).under (.key f.key) := by
    intro f hf
    rw [optional_record (hpaths f hf)]
    rfl
  have hknown : knownKeys (fields.map fun field => (.text field.1, field.2)) = .ok () :=
    knownKeys_eq_ok_iff.2 (List.forall_mem_map.2 fun field hfield => ⟨_, hkeys field hfield, rfl⟩)
  rw [hfields, ofValue_eq_ok_iff]
  constructor
  · rintro ⟨_, ⟨⟩, -, hoptions⟩ f hf
    have hpath := (readEntries_eq_ok_iff.1 hoptions).1 f hf
    rwa [hread f hf, Checked.under_eq_ok_iff] at hpath
  · intro hsame
    refine ⟨_, rfl, any_isTorn_of_knownKeys hknown,
      readEntries_eq_ok_iff.2 ⟨fun f hf => ?_, ?_, hknown⟩⟩
    · rw [hread f hf, hsame f hf]
      rfl
    · rw [optional_record hflag]
      rfl

/-- Options that were read are read again as they are exactly when none of their paths has a blank
at an end or is blank altogether, and this is so exactly when no path that was given hides a blank
behind slashes. -/
theorem ofValue_toValue_iff (h : ofValue raw file = .ok o) (again : Option String) :
    (ofValue o.toValue again = .ok o ↔ ∀ f ∈ PathField.all, Text.Tidy (f.get o).toList) ∧
      ((∀ f ∈ PathField.all, Text.Tidy (f.get o).toList) ↔
        ∀ f ∈ PathField.all, ∀ s, Gives raw f.key s → ¬ f.Hides s) := by
  constructor
  · rw [ofValue_toValue_self_iff]
    refine forall₂_congr fun f hf => ?_
    obtain ⟨s, hs, -⟩ := exists_pathOfText h hf
    exact PathField.pathOfText_self_iff (PathField.settled_of_pathOfText hs)
  · refine forall₂_congr fun f hf => ?_
    obtain ⟨s, hs, hgiven | ⟨rfl, hnone⟩⟩ := exists_pathOfText h hf
    · rw [PathField.tidy_iff_of_pathOfText hs]
      simp only [hgiven, forall_eq]
    · have hfallback : f.fallback = f.get o :=
        Checked.ok.inj ((PathField.pathOfText_fallback f hf).symm.trans hs)
      rw [← hfallback]
      exact ⟨fun _ s hs => absurd hs (hnone s), fun _ => PathField.tidy_fallback f hf⟩

/-- Blanks around a path and slashes at its ends are dropped for good. -/
theorem ofValue_toValue_of_slashes :
    ∃ o, ofValue (.record [("input_type_path", .text " /inputs/ ")]) none = .ok o ∧
      o.inputTypePath = "inputs" ∧ ofValue o.toValue none = .ok o ∧
      ∀ f ∈ PathField.all, Text.Tidy (f.get o).toList := by
  have hread : ofValue (.record [("input_type_path", .text " /inputs/ ")]) none =
      .ok { default with inputTypePath := "inputs" } := rfl
  have htidy : ∀ f ∈ PathField.all,
      Text.Tidy (f.get { default with inputTypePath := "inputs" }).toList := by decide
  exact ⟨_, hread, rfl, (ofValue_toValue_iff hread none).1.2 htidy, htidy⟩

/-- A blank before the slashes at the end of a path stays in it, and is gone when the path is read
again. -/
theorem ofValue_not_always_normal :
    ¬ (∀ raw o, ofValue raw none = .ok o → ofValue o.toValue none = .ok o) ∧
      ¬ ∀ raw o, ofValue raw none = .ok o →
        ∀ f ∈ PathField.all, Text.Tidy (f.get o).toList := by
  have hread : ofValue (.record [("input_type_path", .text "inputs /")]) none =
      .ok { default with inputTypePath := "inputs " } := rfl
  have hagain : ofValue (toValue { default with inputTypePath := "inputs " }) none =
      .ok { default with inputTypePath := "inputs" } := rfl
  constructor
  · intro hall
    have hsame := Except.ok.inj (hagain.symm.trans (hall _ _ hread))
    exact absurd (congrArg inputTypePath hsame) (by decide)
  · intro hall
    exact absurd (hall _ _ hread) (by decide)

end ModelGraph.Options
