import ModelGraph.Text.Utf8

/-!
# Texts in portions

A file is read from its front, and no further than it is asked for: the bytes in chunks, each of
which is decoded as a whole, and the characters in portions. What comes before a byte that is no
text can be used up to the last full portion, so whether that byte matters depends on how far one
reads. `ofBytes` says what there is to be read.
-/

namespace ModelGraph.Text

/-- A text that is read from its front. -/
structure Stream where
  /-- The characters that can be read. -/
  letters : List Char
  /-- What shows up when more is asked for; nothing at the end of the text. -/
  failure : Option Utf8.Failure

namespace Stream

/-- A text in which every line ends in the one same way. -/
def unifyBreaks : List Char → List Char
  | '\r' :: '\n' :: r => '\n' :: unifyBreaks r
  | '\r' :: r => '\n' :: unifyBreaks r
  | c :: r => c :: unifyBreaks r
  | [] => []

/-- The number of characters in a portion. -/
def portion : Nat := 4096

/-- The number of characters that are read before the portion with the one at `n` is asked for. The
first two portions are asked for at once. -/
def before (n : Nat) : Nat :=
  if n < 2 * portion then 0 else portion * (n / portion)

/-- The least number of bytes in a chunk. -/
def leastChunk : Nat := 8192

/-- The characters so far, the last one first, with the number of them and of their bytes in the
last chunk; and the bytes of a sequence that is still open. -/
structure Progress where
  found : List Char
  lastLetters : Nat
  lastBytes : Nat
  pending : List UInt8

/-- The number of characters so far. A carriage return at their end does not count yet, because a
line feed may follow it. -/
def Progress.count (p : Progress) : Nat :=
  (unifyBreaks p.found.reverse).length - (if p.found.head? = some '\r' then 1 else 0)

/-- The number of bytes in the next chunk: as many as the rest of a portion takes if its characters
are like those of the last chunk. -/
def Progress.chunk (p : Progress) : Nat :=
  max leastChunk (p.lastBytes * (portion - p.count % portion) / p.lastLetters)

/-- What there is to be read when more is refused. -/
def Progress.refused (p : Progress) (failure : Utf8.Failure) : Stream :=
  ⟨(unifyBreaks p.found.reverse).take (before p.count), some failure⟩

/-- Decodes chunk after chunk, as often as the limit says. -/
def decodeChunks : Nat → Progress → List UInt8 → Stream
  | 0, p, _ => ⟨unifyBreaks p.found.reverse, none⟩
  | limit + 1, p, bytes =>
    if bytes.isEmpty then
      if p.pending.isEmpty then ⟨unifyBreaks p.found.reverse, none⟩
      else p.refused (Utf8.openFailure 0 p.pending)
    else
      let chunk := bytes.take p.chunk
      match Utf8.decodeSome (p.pending ++ chunk) with
      | .error failure => p.refused failure
      | .ok (letters, pending) =>
        let next : Progress := ⟨letters.reverse ++ p.found, 0, chunk.length, pending⟩
        decodeChunks limit { next with lastLetters := next.count - p.count } (bytes.drop p.chunk)

/-- The text of the bytes of a file. -/
def ofBytes (bytes : List UInt8) : Stream :=
  decodeChunks (bytes.length + 1) ⟨[], 0, 0, []⟩ bytes

end Stream

end ModelGraph.Text
