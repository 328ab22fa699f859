import SolutionSurvey.Text.Encoding

/-!
# Texts read gradually

The characters of a UTF-8 file, decoded in chunks of bytes as they are asked for. A fault shows only when
reading comes to its chunk. Its position counts from the start of the chunk, or from the start of the
sequence that the chunk before it left unfinished.

## Main definitions

* `TextStream` — a file that is being read.
* `TextStream.read` — the next characters.
-/

namespace SolutionSurvey

/-- A file that is being read: the bytes that are left, those of a sequence that is not finished, whether
a carriage return is held back because a line feed may follow, the characters that are decoded and not
given out, and the numbers of bytes and characters of the last chunk. -/
structure TextStream where
  rest : List UInt8
  unfinished : List UInt8 := []
  holdsReturn : Bool := false
  ready : List Char := []
  lastBytes : Nat := 0
  lastChars : Nat := 0
  deriving Repr, DecidableEq, Inhabited

namespace TextStream

/-- The least number of bytes in a chunk, unless the file ends. -/
def leastChunk : Nat := 8192

/-- The number of bytes to take for some characters, going by what the last chunk gave. -/
def chunkSize (wanted : Nat) (s : TextStream) : Nat :=
  max leastChunk (if s.lastChars = 0 then wanted else max wanted (wanted * s.lastBytes / s.lastChars))

/-- The bytes of whole sequences, and those of a sequence at the end that more bytes may finish. -/
def splitUnfinished (bs : List UInt8) : List UInt8 × List UInt8 :=
  match Encoding.decodeUtf8 bs with
  | .error d =>
    if d.reason = "unexpected end of data" then (bs.take d.start, bs.drop d.start) else (bs, [])
  | .ok _ => (bs, [])

/-- Joins a carriage return that was held back to the characters after it, and holds one at their end
back unless they are the last ones. -/
def holdReturn (isLast held : Bool) (cs : List Char) : List Char × Bool :=
  if held && cs.isEmpty && !isLast then ([], true)
  else
    let cs := if held then '\r' :: cs else cs
    if !isLast && cs.getLast? == some '\r' then (cs.dropLast, true) else (cs, false)

/-- Decodes the next chunk, when `wanted` characters are missing. Tells whether there was anything. -/
def nextChunk (wanted : Nat) (s : TextStream) : Except DecodeFault (Bool × TextStream) := do
  let size := s.chunkSize wanted
  let chunk := s.rest.take size
  let isLast := chunk.isEmpty
  let bytes := s.unfinished ++ chunk
  let (whole, unfinished) := if isLast then (bytes, []) else splitUnfinished bytes
  let (cs, held) := holdReturn isLast s.holdsReturn (← Encoding.decodeUtf8 whole)
  let ready := unifyNewlines cs
  pure (!isLast || !ready.isEmpty, ⟨s.rest.drop size, unfinished, held, ready, chunk.length, ready.length⟩)

/-- The next characters, as many as are wanted or are there; `fuel` bounds the number of chunks. -/
def readWithin : Nat → Nat → TextStream → Except DecodeFault (List Char × TextStream)
  | 0, _, s => .ok ([], s)
  | fuel + 1, wanted, s => do
    let got := s.ready.take wanted
    let s := { s with ready := s.ready.drop wanted }
    if got.length = wanted then pure (got, s)
    else
      let (isMore, s) ← s.nextChunk (wanted - got.length)
      if isMore then
        let (others, s) ← readWithin fuel (wanted - got.length) s
        pure (got ++ others, s)
      else pure (got, s)

/-- The next characters, as many as are wanted or are there. -/
def read (wanted : Nat) (s : TextStream) : Except DecodeFault (List Char × TextStream) :=
  readWithin (s.rest.length + 3) wanted s

end TextStream

end SolutionSurvey
