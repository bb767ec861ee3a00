import Mathlib.Data.List.TakeWhile
import ModelGraph.Proofs.Walk
import ModelGraph.Text.Portion

/-!
# Decoding in chunks

Bytes are a text exactly when they are made of well-formed sequences (`decode_eq_ok_iff`). What was
decoded of some bytes can be forgotten when more bytes come: only the sequence that is still open
matters (`decodeSome_of_ok`, `decodeSome_of_error`). So it does not matter into which chunks the bytes
of a file fall: a byte that is no text shows up in one of them exactly when the bytes as a whole are
no text (`failure_ofBytes_eq_none_iff`).
-/

namespace ModelGraph.Text.Utf8

/-- Bytes that are made of well-formed sequences. -/
inductive Sequences : List UInt8 → Prop where
  | nil : Sequences []
  | cons {first : UInt8} {rest : List UInt8} {n : Nat} :
      followers? first = some n → fitting first (rest.take n) = n → Sequences (rest.drop n) →
      Sequences (first :: rest)

/-- Bytes that may be the beginning of a sequence, but no whole one. -/
def Unfinished (s : List UInt8) : Prop :=
  ∃ first rest n, s = first :: rest ∧ followers? first = some n ∧ fitting first (rest.take n) ≠ n

variable {first : UInt8} {rest front pending bytes s t : List UInt8} {n : Nat}

/-! ## What fits after a first byte -/

theorem fitting_cons (first b : UInt8) (rest : List UInt8) : fitting first (b :: rest) =
    if isSecond first b then 1 + (rest.takeWhile fun b => 0x80 ≤ b && b ≤ 0xbf).length else 0 :=
  rfl

theorem fitting_le (first : UInt8) (s : List UInt8) : fitting first s ≤ s.length := by
  cases s with
  | nil => exact Nat.le_refl 0
  | cons b rest =>
      have hrest := (List.takeWhile_sublist (l := rest) fun b => 0x80 ≤ b && b ≤ 0xbf).length_le
      rw [fitting_cons, List.length_cons]
      split <;> omega

/-- Bytes behind ones that do not all fit change nothing. -/
theorem fitting_append_of_ne (h : fitting first s ≠ s.length) (t : List UInt8) :
    fitting first (s ++ t) = fitting first s := by
  cases s with
  | nil => exact absurd rfl h
  | cons b rest =>
      rw [fitting_cons, List.length_cons] at h
      rw [List.cons_append, fitting_cons, fitting_cons]
      split
      · next hsecond =>
          rw [if_pos hsecond] at h
          rw [List.takeWhile_append, if_neg (by omega)]
      · rfl

theorem le_length_of_fitting (h : fitting first (rest.take n) = n) : n ≤ rest.length := by
  have hle := fitting_le first (rest.take n)
  rw [h, List.length_take] at hle
  omega

/-! ## Sequences -/

theorem sequences_cons_iff : Sequences (first :: rest) ↔
    ∃ n, followers? first = some n ∧ fitting first (rest.take n) = n ∧ Sequences (rest.drop n) := by
  constructor
  · intro h
    cases h with
    | cons hfollowers hfits hrest => exact ⟨_, hfollowers, hfits, hrest⟩
  · intro h
    obtain ⟨n, hfollowers, hfits, hrest⟩ := h
    exact .cons hfollowers hfits hrest

/-- Whole sequences at the front can be passed over. -/
theorem Sequences.append_iff (h : Sequences front) :
    Sequences (front ++ s) ↔ Sequences s := by
  induction h with
  | nil => exact Iff.rfl
  | @cons first rest n hfollowers hfits _ ih =>
      have hle := le_length_of_fitting hfits
      rw [← ih, List.cons_append, sequences_cons_iff]
      constructor
      · intro h
        obtain ⟨m, hm, _, hrest⟩ := h
        cases hfollowers.symm.trans hm
        rwa [List.drop_append_of_le_length hle] at hrest
      · intro h
        refine ⟨n, hfollowers, ?_, ?_⟩
        · rw [List.take_append_of_le_length hle, hfits]
        · rwa [List.drop_append_of_le_length hle]

theorem Unfinished.not_sequences (h : Unfinished s) : ¬ Sequences s := by
  obtain ⟨first, rest, n, rfl, hn, hfits⟩ := h
  intro hwhole
  obtain ⟨m, hm, hwhole, _⟩ := sequences_cons_iff.1 hwhole
  cases hn.symm.trans hm
  exact hfits hwhole

/-- A byte with which no sequence begins stays one, whatever follows. -/
theorem not_sequences_of_start (h : followers? first = none) : ¬ Sequences (first :: rest) := by
  intro hwhole
  obtain ⟨n, hn, _⟩ := sequences_cons_iff.1 hwhole
  cases h.symm.trans hn

/-- A sequence that is not continued as it has to be cannot become whole. -/
theorem not_sequences_of_continuation (hn : followers? first = some n)
    (hfits : fitting first (rest.take n) ≠ n)
    (hopen : fitting first (rest.take n) ≠ rest.length) :
    ¬ Sequences (first :: (rest ++ t)) := by
  intro hwhole
  obtain ⟨m, hm, hwhole, _⟩ := sequences_cons_iff.1 hwhole
  cases hn.symm.trans hm
  have hstuck : fitting first (rest.take n) ≠ (rest.take n).length := by
    rw [List.length_take]
    omega
  rw [List.take_append, fitting_append_of_ne hstuck] at hwhole
  exact hfits hwhole

/-! ## Decoding -/

/-- The walk of `decodeSome` from a place on. -/
def decodeFrom (position : Nat) (found : List Char) (s : List UInt8) :
    Except Failure (List Char × Nat) :=
  Walk.run step (fun state => .ok state.2.reverse) 0 (position, found) s

/-- What decoding some bytes comes to: it stops behind whole sequences, before nothing or before an
unfinished one, or it meets bytes that no more bytes can make a text. -/
def Stops (s : List UInt8) : Except Failure (List Char × Nat) → Prop
  | .ok (_, taken) => ∃ front pending, s = front ++ pending ∧ taken = front.length ∧
      Sequences front ∧ (pending = [] ∨ Unfinished pending)
  | .error _ => ∀ t, ¬ Sequences (s ++ t)

theorem Stops.behind {outcome : Except Failure (List Char × Nat)}
    (hn : followers? first = some n) (hfits : fitting first (rest.take n) = n)
    (h : Stops (rest.drop n) outcome) :
    Stops (first :: rest) (Walk.behind (n + 1) outcome) := by
  have hle := le_length_of_fitting hfits
  cases outcome with
  | error e =>
      intro t hwhole
      obtain ⟨m, hm, _, hrest⟩ := sequences_cons_iff.1 hwhole
      cases hn.symm.trans hm
      have hdrop : (List.append rest t).drop n = rest.drop n ++ t :=
        List.drop_append_of_le_length hle
      exact h t (hdrop ▸ hrest)
  | ok found =>
      obtain ⟨front, pending, hsplit, htaken, hfront, hpending⟩ := h
      refine ⟨first :: (rest.take n ++ front), pending, ?_, ?_, ?_, hpending⟩
      · rw [List.cons_append, List.append_assoc, ← hsplit, List.take_append_drop]
      · show found.2 + (n + 1) = _
        rw [htaken, List.length_cons, List.length_append, List.length_take]
        omega
      · have hlength : (rest.take n).length = n := by
          rw [List.length_take]
          omega
        refine .cons hn ?_ ?_
        · rw [List.take_left' hlength, hfits]
        · rwa [List.drop_left' hlength]

theorem stops_decodeFrom (position : Nat) (found : List Char) (s : List UInt8) :
    Stops s (decodeFrom position found s) := by
  -- A step takes a whole sequence, so the induction is on the number of bytes.
  induction h : s.length using Nat.strongRecOn generalizing s position found with
  | _ length ih =>
      cases s with
      | nil => exact ⟨[], [], rfl, rfl, .nil, .inl rfl⟩
      | cons first rest =>
          cases hn : followers? first with
          | none =>
              have hstep : step (position, found) (first :: rest) =
                  .error ⟨.start, position, [first]⟩ := by
                simp only [step, hn]
              rw [decodeFrom, Walk.run_of_error hstep]
              exact fun _ => not_sequences_of_start hn
          | some n =>
              by_cases hfits : fitting first (rest.take n) = n
              · have hstep : step (position, found) (first :: rest) =
                    .ok (.go (position + n + 1, character first (rest.take n) :: found)
                      (n + 1)) := by
                  simp only [step, hn, hfits, if_true]
                have hshorter : (rest.drop n).length < length := by
                  rw [← h, List.length_cons, List.length_drop]
                  omega
                rw [decodeFrom, Walk.run_of_go hstep (le_length_of_fitting hfits)]
                exact .behind hn hfits (ih _ hshorter _ _ _ rfl)
              · by_cases hopen : (fitting first (rest.take n) = rest.length ||
                    isCutSurrogate (first :: rest)) = true
                · have hstep : step (position, found) (first :: rest) =
                      .ok (.stop found.reverse 0) := by
                    simp only [step, hn, hfits, hopen, if_false, if_true]
                  rw [decodeFrom, Walk.run_of_stop hstep]
                  exact ⟨[], first :: rest, rfl, rfl, .nil, .inr ⟨first, rest, n, rfl, hn, hfits⟩⟩
                · have hstep : step (position, found) (first :: rest) =
                      .error ⟨.continuation, position,
                        (first :: rest).take (fitting first (rest.take n) + 1)⟩ := by
                    simp only [step, hn, hfits, hopen, if_false]
                    rfl
                  rw [decodeFrom, Walk.run_of_error hstep]
                  exact fun _ => not_sequences_of_continuation hn hfits fun hall => hopen (by simp [hall])

/-- Decoding leaves over nothing or an unfinished sequence, behind whole ones. -/
theorem decodeSome_of_ok {letters : List Char} (h : decodeSome bytes = .ok (letters, pending)) :
    (∃ front, bytes = front ++ pending ∧ Sequences front) ∧
      (pending = [] ∨ Unfinished pending) := by
  have hstops := stops_decodeFrom 0 [] bytes
  change (decodeFrom 0 [] bytes).map _ = _ at h
  cases hfrom : decodeFrom 0 [] bytes with
  | error e =>
      rw [hfrom] at h
      cases h
  | ok found =>
      rw [hfrom] at h hstops
      obtain ⟨front, left, rfl, htaken, hfront, hleft⟩ := hstops
      cases h
      rw [htaken, List.drop_left]
      exact ⟨⟨front, rfl, hfront⟩, hleft⟩

/-- What decoding refuses is no text, whatever follows. -/
theorem decodeSome_of_error {e : Failure} (h : decodeSome bytes = .error e) (t : List UInt8) :
    ¬ Sequences (bytes ++ t) := by
  have hstops := stops_decodeFrom 0 [] bytes
  change (decodeFrom 0 [] bytes).map _ = _ at h
  cases hfrom : decodeFrom 0 [] bytes with
  | error reason =>
      rw [hfrom] at hstops
      exact hstops t
  | ok found =>
      rw [hfrom] at h
      cases h

/-- Bytes are a text exactly when they are made of well-formed sequences. -/
theorem decode_eq_ok_iff : (∃ letters, decode bytes = .ok letters) ↔ Sequences bytes := by
  cases hsome : decodeSome bytes with
  | error e =>
      have hrefused : decode bytes = .error e := by
        rw [decode, hsome]
        rfl
      have hnot := decodeSome_of_error hsome []
      rw [List.append_nil] at hnot
      simp [hrefused, hnot]
  | ok found =>
      obtain ⟨letters, pending⟩ := found
      obtain ⟨⟨front, hbytes, hfront⟩, hpending⟩ := decodeSome_of_ok hsome
      have hdecode : decode bytes =
          if pending.isEmpty then .ok letters
          else .error (openFailure (bytes.length - pending.length) pending) := by
        rw [decode, hsome]
        cases pending <;> rfl
      rcases hpending with hnone | hopen
      · subst hnone
        rw [List.append_nil] at hbytes
        exact iff_of_true ⟨letters, hdecode⟩ (hbytes ▸ hfront)
      · have hnot : ¬ Sequences bytes := by
          rw [hbytes, hfront.append_iff]
          exact hopen.not_sequences
        obtain ⟨first, rest, n, rfl, _⟩ := hopen
        simp [hdecode, hnot]

end Utf8

namespace Stream

open Utf8

variable {limit : Nat} {p : Progress} {b : UInt8} {rest : List UInt8}

theorem decodeChunks_of_error {e : Failure}
    (h : decodeSome (p.pending ++ (b :: rest).take p.chunk) = .error e) :
    decodeChunks (limit + 1) p (b :: rest) = p.refused e := by
  simp only [decodeChunks, List.isEmpty_cons, Bool.false_eq_true, if_false, h]

theorem decodeChunks_of_ok {letters : List Char} {pending : List UInt8}
    (h : decodeSome (p.pending ++ (b :: rest).take p.chunk) = .ok (letters, pending)) :
    ∃ next : Progress, next.pending = pending ∧ ∀ limit,
      decodeChunks (limit + 1) p (b :: rest) =
        decodeChunks limit next ((b :: rest).drop p.chunk) := by
  simp only [decodeChunks, List.isEmpty_cons, Bool.false_eq_true, if_false, h]
  exact ⟨_, rfl, fun _ => rfl⟩

/-- Decoding chunk after chunk meets a failure exactly when what is left is no text. -/
theorem failure_decodeChunks_eq_none_iff {bytes : List UInt8}
    (hpending : p.pending = [] ∨ Unfinished p.pending) (hlimit : bytes.length < limit) :
    (decodeChunks limit p bytes).failure = none ↔ Sequences (p.pending ++ bytes) := by
  -- What a chunk leaves open goes before the next chunk, and nothing else is carried along.
  induction limit generalizing p bytes with
  | zero => exact absurd hlimit (Nat.not_lt_zero _)
  | succ limit ih =>
      cases bytes with
      | nil =>
          rw [List.append_nil]
          rcases hpending with hnone | hopen
          · rw [decodeChunks, hnone]
            exact iff_of_true rfl .nil
          · have hnonempty : p.pending.isEmpty = false := by
              obtain ⟨first, rest, n, hsplit, _⟩ := hopen
              rw [hsplit]
              rfl
            rw [decodeChunks, hnonempty]
            exact iff_of_false (Option.some_ne_none _) hopen.not_sequences
      | cons b rest =>
          have hall : p.pending ++ b :: rest =
              (p.pending ++ (b :: rest).take p.chunk) ++ (b :: rest).drop p.chunk := by
            rw [List.append_assoc, List.take_append_drop]
          rw [hall]
          cases hsome : decodeSome (p.pending ++ (b :: rest).take p.chunk) with
          | error e =>
              rw [decodeChunks_of_error hsome]
              exact iff_of_false (Option.some_ne_none _) (decodeSome_of_error hsome _)
          | ok found =>
              obtain ⟨letters, pending⟩ := found
              obtain ⟨⟨front, hfront, hwhole⟩, hleft⟩ := decodeSome_of_ok hsome
              have hchunk : leastChunk ≤ p.chunk := Nat.le_max_left ..
              have hshorter : ((b :: rest).drop p.chunk).length < limit := by
                rw [List.length_cons] at hlimit
                rw [List.length_drop, List.length_cons]
                have hpositive : 0 < leastChunk := by decide
                omega
              obtain ⟨next, rfl, hnext⟩ := decodeChunks_of_ok hsome
              rw [hnext, hfront, List.append_assoc, hwhole.append_iff]
              exact ih hleft hshorter

/-- What shows up when a file is read to its end: nothing exactly when its bytes are a text. -/
theorem failure_ofBytes_eq_none_iff {bytes : List UInt8} :
    (ofBytes bytes).failure = none ↔ ∃ letters, decode bytes = .ok letters := by
  rw [decode_eq_ok_iff]
  exact failure_decodeChunks_eq_none_iff (.inl rfl) (Nat.lt_succ_self _)

end ModelGraph.Text.Stream
