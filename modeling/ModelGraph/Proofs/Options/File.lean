import ModelGraph.Options.File
import ModelGraph.Proofs.Log.Outcome
import ModelGraph.Proofs.Text.Decoding
import ModelGraph.Proofs.Yaml.Reading

/-!
# How reading options can end

Reading options ends with options or with a failure that is reported as one of the options, except
where the reading of the file as YAML ends in another way, because its bytes are no text or because
it says a value that cannot be (`load_documented_iff`). A file whose bytes are a text is never refused
for its bytes, and one whose bytes are no text never leads to options. A value that is no object is
refused if it counts as true, and otherwise taken for an empty file.
-/

namespace ModelGraph.Options

/-- The outcome that is promised: options, or a failure that is reported as one of the options. -/
def Documented : Except Failure Options → Prop
  | .ok _ => True
  | .error failure => ∃ message details, failure.report = .ok (.plain .options message details)

/-- The bytes that are read as YAML: those of the file at a path, if a path is given and there is a
file. -/
def bytesAt? : File → Option String → Option (List UInt8)
  | .content bytes, some path => if path = "" then none else some bytes
  | _, _ => none

variable {path : Option String} {file : File} {overrides : Entries} {bytes : List UInt8}

/-- The failure that a refusal of the file comes to. -/
def failureOf (path : String) : Yaml.Refusal → Failure
  | .malformed fault => .optionsMalformed path fault
  | .impossible value => .optionsImpossible value
  | .undecodable failure => .optionsUndecodable failure

/-! ## Parts of the outcome -/

/-- A failure without a report is none that is documented. -/
theorem not_documented_of_report {failure : Failure} {wording : String}
    (h : failure.report = .error wording) : ¬ Documented (.error failure) := by
  rintro ⟨message, details, hreport⟩
  cases h.symm.trans hreport

/-- A refusal is reported as one of the options only if it is a fault of the text. -/
theorem documented_failureOf_iff {p : String} {refusal : Yaml.Refusal} :
    Documented (.error (failureOf p refusal)) ↔ ∃ fault, refusal = .malformed fault := by
  cases refusal with
  | malformed fault => exact iff_of_true ⟨_, _, rfl⟩ ⟨fault, rfl⟩
  | impossible value => simp [not_documented_of_report, failureOf, Failure.report]
  | undecodable failure => simp [not_documented_of_report, failureOf, Failure.report]

theorem documented_ofValue (value : Value) (path : Option String) :
    Documented (ofValue value path) := by
  unfold ofValue
  cases read value with
  | ok options => trivial
  | refused violations => exact ⟨_, _, rfl⟩

/-- Noting which options are overridden changes no outcome. -/
theorem outcome_noteOverrides (overrides : Entries) :
    (noteOverrides overrides).outcome = .ok () := by
  unfold noteOverrides
  dsimp only
  split <;> rfl

/-- With proper overrides the outcome is that of the entries of the file with the overrides. -/
theorem outcome_load (h : overrideFailure? overrides = none) :
    (load path file overrides).outcome = (entriesAt file path).outcome >>= fun entries =>
      ofValue (.object (entries.putAll (effective overrides))) path := by
  rw [load, h]
  show ((entriesAt file path) >>= fun entries => noteOverrides (effective overrides) >>= fun _ =>
    Traced.ofExcept (ofValue (.object (entries.putAll (effective overrides))) path)).outcome = _
  simp only [Traced.outcome_bind, outcome_noteOverrides, Traced.outcome_ofExcept]
  rfl

theorem bytesAt?_eq_some_iff {p : String} :
    bytesAt? file (some p) = some bytes ↔ p ≠ "" ∧ file = .content bytes := by
  cases file with
  | absent => simp [bytesAt?]
  | content found =>
      by_cases hp : p = ""
      · simp [bytesAt?, hp]
      · simp [bytesAt?, hp]

/-- Without a file there are no entries. -/
theorem outcome_entriesAt_of_none (h : bytesAt? file path = none) :
    (entriesAt file path).outcome = .ok [] := by
  cases path with
  | none => rfl
  | some p =>
      by_cases hp : p = ""
      · rw [entriesAt, if_pos hp]
        rfl
      · rw [entriesAt, if_neg hp]
        cases file with
        | absent => rfl
        | content bytes =>
            have hbytes : bytesAt? (.content bytes) (some p) = some bytes :=
              bytesAt?_eq_some_iff.2 ⟨hp, rfl⟩
            cases hbytes.symm.trans h

/-- The entries of a file are those of the value that its bytes say. -/
theorem outcome_entriesAt_of_some {p : String} (h : bytesAt? file (some p) = some bytes) :
    (entriesAt file (some p)).outcome = fileValue p bytes >>= entriesOf p := by
  obtain ⟨hp, rfl⟩ := bytesAt?_eq_some_iff.1 h
  rw [entriesAt, if_neg hp]
  show (Traced.ofExcept (fileValue p bytes) >>= fun value =>
    Traced.ofExcept (entriesOf p value) >>= fun entries =>
      Traced.log .options .debug ("Loaded configuration from " ++ p) >>= fun _ =>
        pure entries).outcome = _
  simp only [Traced.outcome_bind, Traced.outcome_ofExcept, Traced.outcome_log,
    Traced.outcome_pure]
  cases fileValue p bytes with
  | error failure => rfl
  | ok value =>
      show (entriesOf p value >>= fun entries => .ok entries) = entriesOf p value
      cases entriesOf p value <;> rfl

/-! ## The outcome by what the file says -/

/-- The options of some entries with the overrides in front of them. -/
def ofEntries (path : Option String) (overrides entries : Entries) : Except Failure Options :=
  ofValue (.object (entries.putAll (effective overrides))) path

theorem outcome_load_of_none (h : overrideFailure? overrides = none)
    (hbytes : bytesAt? file path = none) :
    (load path file overrides).outcome = ofEntries path overrides [] := by
  rw [outcome_load h, outcome_entriesAt_of_none hbytes]
  rfl

section

variable {p : String} (h : overrideFailure? overrides = none)
  (hbytes : bytesAt? file (some p) = some bytes)

include h hbytes

theorem outcome_load_of_some : (load (some p) file overrides).outcome =
    (fileValue p bytes >>= entriesOf p) >>= ofEntries (some p) overrides := by
  rw [outcome_load h, outcome_entriesAt_of_some hbytes]
  rfl

theorem outcome_load_of_ok {value : Value} (hread : Yaml.read (.ofBytes bytes) = .ok value) :
    (load (some p) file overrides).outcome =
      entriesOf p value >>= ofEntries (some p) overrides := by
  rw [outcome_load_of_some h hbytes, fileValue, hread]
  rfl

theorem outcome_load_of_error {refusal : Yaml.Refusal}
    (hread : Yaml.read (.ofBytes bytes) = .error refusal) :
    (load (some p) file overrides).outcome = .error (failureOf p refusal) := by
  rw [outcome_load_of_some h hbytes, fileValue, hread]
  cases refusal <;> rfl

end

/-- Every value leads to options, or to a failure that is reported as one of the options. -/
theorem documented_entriesOf_bind (p : String) (overrides : Entries) (value : Value) :
    Documented (entriesOf p value >>= ofEntries (some p) overrides) := by
  unfold entriesOf
  split
  · exact documented_ofValue _ _
  · exact ⟨_, _, rfl⟩
  · exact documented_ofValue _ _

/-- A value is refused as no object exactly when it is none and counts as true. -/
theorem entriesOf_bind_eq_notMapping_iff (p : String) (overrides : Entries) (value : Value) :
    entriesOf p value >>= ofEntries (some p) overrides = .error (.optionsNotMapping p) ↔
      value.truthy = true ∧ ∀ entries, value ≠ .object entries := by
  have hoptions : ∀ entries, ofEntries (some p) overrides entries ≠
      .error (.optionsNotMapping p) := by
    intro entries hfailure
    unfold ofEntries ofValue at hfailure
    cases hread : read (.object (entries.putAll (effective overrides))) with
    | ok options =>
        rw [hread] at hfailure
        cases hfailure
    | refused violations =>
        rw [hread] at hfailure
        cases hfailure
  unfold entriesOf
  split
  · next entries _ => exact iff_of_false (hoptions entries) fun h => h.2 entries rfl
  · next hobject htruthy => exact iff_of_true rfl ⟨htruthy, fun entries h => hobject entries h⟩
  · next htruthy =>
      refine iff_of_false (hoptions []) fun h => ?_
      rw [h.1] at htruthy
      cases htruthy

/-- A value that counts as false says as much as no file. -/
theorem entriesOf_of_not_truthy (p : String) {value : Value} (h : value.truthy = false) :
    entriesOf p value = .ok [] := by
  unfold entriesOf
  rw [h]

/-! ## Bytes and texts -/

/-- Bytes that are a text are not refused for being none. -/
theorem read_ofBytes_ne_undecodable {letters : List Char}
    (h : Text.Utf8.decode bytes = .ok letters) (failure : Text.Utf8.Failure) :
    Yaml.read (.ofBytes bytes) ≠ .error (.undecodable failure) := by
  intro hread
  have hnone := Text.Stream.failure_ofBytes_eq_none_iff.2 ⟨letters, h⟩
  rcases Yaml.read_expected _ hread with htext | hbehind
  · exact htext
  · obtain ⟨reason, hreason, _⟩ := hbehind
    cases hnone.symm.trans hreason

/-- Bytes that are no text say no value. -/
theorem read_ofBytes_ne_ok {reason : Text.Utf8.Failure} (h : Text.Utf8.decode bytes = .error reason)
    (value : Value) : Yaml.read (.ofBytes bytes) ≠ .ok value := by
  intro hread
  have hnone := Yaml.failure_eq_none_of_read hread
  obtain ⟨letters, hletters⟩ := Text.Stream.failure_ofBytes_eq_none_iff.1 hnone
  cases h.symm.trans hletters

/-! ## The outcome as a whole -/

/-- The YAML reader ends as it is documented to end: with a value, or with a fault of the text. -/
def ReadsAsDocumented (bytes : List UInt8) : Prop :=
  (∃ value, Yaml.read (.ofBytes bytes) = .ok value) ∨
    ∃ fault, Yaml.read (.ofBytes bytes) = .error (.malformed fault)

/-- On a text the YAML reader ends as documented unless it comes to a value that cannot be. -/
theorem readsAsDocumented_of_text {letters : List Char}
    (h : Text.Utf8.decode bytes = .ok letters)
    (hpossible : ∀ value, Yaml.read (.ofBytes bytes) ≠ .error (.impossible value)) :
    ReadsAsDocumented bytes := by
  cases hread : Yaml.read (.ofBytes bytes) with
  | ok value => exact .inl ⟨value, hread⟩
  | error refusal =>
      cases refusal with
      | malformed fault => exact .inr ⟨fault, hread⟩
      | impossible value => exact absurd hread (hpossible value)
      | undecodable failure => exact absurd hread (read_ofBytes_ne_undecodable h failure)

theorem readsAsDocumented_iff_of_error {refusal : Yaml.Refusal}
    (hread : Yaml.read (.ofBytes bytes) = .error refusal) :
    ReadsAsDocumented bytes ↔ ∃ fault, refusal = .malformed fault := by
  unfold ReadsAsDocumented
  simp [hread]

/-- A file leads to a documented outcome exactly when the YAML reader ends as documented on it. -/
theorem documented_load_iff_of_some {p : String} (h : overrideFailure? overrides = none)
    (hbytes : bytesAt? file (some p) = some bytes) :
    Documented (load (some p) file overrides).outcome ↔ ReadsAsDocumented bytes := by
  cases hread : Yaml.read (.ofBytes bytes) with
  | ok value =>
      rw [outcome_load_of_ok h hbytes hread]
      exact iff_of_true (documented_entriesOf_bind p overrides value) (.inl ⟨value, hread⟩)
  | error refusal =>
      rw [outcome_load_of_error h hbytes hread, documented_failureOf_iff,
        readsAsDocumented_iff_of_error hread]

/-- Bytes that are no text lead to no options, however far they are read. -/
theorem outcome_load_ne_ok {p : String} (h : overrideFailure? overrides = none)
    (hbytes : bytesAt? file (some p) = some bytes) {reason : Text.Utf8.Failure}
    (hreason : Text.Utf8.decode bytes = .error reason) (options : Options) :
    (load (some p) file overrides).outcome ≠ .ok options := by
  cases hread : Yaml.read (.ofBytes bytes) with
  | ok value => exact absurd hread (read_ofBytes_ne_ok hreason value)
  | error refusal =>
      rw [outcome_load_of_error h hbytes hread]
      intro hok
      cases hok

/-- With proper overrides, reading options ends as documented exactly when there is no file to be
read, or the YAML reader ends as documented on its bytes. If the bytes are a text, that is so unless
the YAML reader comes to a value that cannot be; if they are none, there are never options. A value
is refused as no object exactly if it counts as true and is none, and a value that counts as false
says as much as no file. -/
theorem load_documented_iff (path : Option String) (file : File) (overrides : Entries)
    (h : overrideFailure? overrides = none) :
    (Documented (load path file overrides).outcome ↔
      ∀ bytes, bytesAt? file path = some bytes → ReadsAsDocumented bytes) ∧
    ∀ p bytes, path = some p → bytesAt? file path = some bytes →
      ((∃ letters, Text.Utf8.decode bytes = .ok letters) →
        (∀ value, Yaml.read (.ofBytes bytes) ≠ .error (.impossible value)) →
        Documented (load path file overrides).outcome) ∧
      ((∃ reason, Text.Utf8.decode bytes = .error reason) →
        ∀ options, (load path file overrides).outcome ≠ .ok options) ∧
      ∀ value, Yaml.read (.ofBytes bytes) = .ok value →
        ((load path file overrides).outcome = .error (.optionsNotMapping p) ↔
          value.truthy = true ∧ ∀ entries, value ≠ .object entries) ∧
        (value.truthy = false →
          (load path file overrides).outcome = (load path .absent overrides).outcome) := by
  refine ⟨?_, fun p bytes hpath hbytes => ?_⟩
  · cases hbytes : bytesAt? file path with
    | none =>
        rw [outcome_load_of_none h hbytes]
        refine iff_of_true (documented_ofValue _ _) fun bytes hsome => ?_
        cases hsome
    | some bytes =>
        cases path with
        | none => cases file <;> cases hbytes
        | some p =>
            rw [documented_load_iff_of_some h hbytes]
            exact ⟨fun hreads _ hsome => Option.some.inj hsome ▸ hreads, fun hreads => hreads _ rfl⟩
  · subst hpath
    refine ⟨?_, ?_, fun value hread => ⟨?_, fun hfalse => ?_⟩⟩
    · rintro ⟨letters, hletters⟩ hpossible
      exact (documented_load_iff_of_some h hbytes).2 (readsAsDocumented_of_text hletters hpossible)
    · rintro ⟨reason, hreason⟩
      exact outcome_load_ne_ok h hbytes hreason
    · rw [outcome_load_of_ok h hbytes hread]
      exact entriesOf_bind_eq_notMapping_iff p overrides value
    · rw [outcome_load_of_ok h hbytes hread, entriesOf_of_not_truthy p hfalse,
        outcome_load_of_none h rfl]
      rfl

/-- A list in the file is refused as no object, and an override makes no difference. -/
theorem load_refuses_list_of_one :
    overrideFailure? [(.text "enum_path", .text "types")] = none ∧
      bytesAt? (.content [0x2d, 0x20, 0x61]) (some "generator.yaml") = some [0x2d, 0x20, 0x61] ∧
      Yaml.read (.ofBytes [0x2d, 0x20, 0x61]) = .ok (.list [.text "a"]) ∧
      Documented (load (some "generator.yaml") (.content [0x2d, 0x20, 0x61])
        [(.text "enum_path", .text "types")]).outcome ∧
      (load (some "generator.yaml") (.content [0x2d, 0x20, 0x61])
        [(.text "enum_path", .text "types")]).outcome =
          .error (.optionsNotMapping "generator.yaml") := by
  have hbytes : bytesAt? (.content [0x2d, 0x20, 0x61]) (some "generator.yaml") =
      some [0x2d, 0x20, 0x61] := rfl
  have hread : Yaml.read (.ofBytes [0x2d, 0x20, 0x61]) = .ok (.list [.text "a"]) := rfl
  obtain ⟨hdocumented, houtcome⟩ := load_documented_iff (some "generator.yaml")
    (.content [0x2d, 0x20, 0x61]) [(.text "enum_path", .text "types")] rfl
  refine ⟨rfl, hbytes, hread, ?_, ?_⟩
  · refine hdocumented.2 fun bytes hsome => ?_
    cases hbytes.symm.trans hsome
    exact .inl ⟨_, hread⟩
  · refine ((houtcome "generator.yaml" _ rfl hbytes).2.2 _ hread).1.2 ⟨rfl, ?_⟩
    intro entries hobject
    cases hobject

/-- Bytes that are no text end the reading in a way that is not documented, and an empty list is
taken for an empty file. -/
theorem load_not_always_documented :
    ¬ Documented (load (some "generator.yaml") (.content [0xff]) []).outcome ∧
      Yaml.read (.ofBytes [0x5b, 0x5d]) = .ok (.list []) ∧
      (load (some "generator.yaml") (.content [0x5b, 0x5d]) []).outcome = .ok Options.default :=
  ⟨not_documented_of_report rfl, rfl, rfl⟩

end ModelGraph.Options
