import SolutionSurvey.Text.Encoding.CodepageTable
import SolutionSurvey.Text.Encoding.EastAsian
import SolutionSurvey.Text.Encoding.Escaped
import SolutionSurvey.Text.Encoding.Punycode
import SolutionSurvey.Text.Encoding.Units
import SolutionSurvey.Text.Encoding.Utf7
import SolutionSurvey.Text.Encoding.Utf8

/-!
# Text encodings

Reading bytes as text. Each encoding goes by several names and says which bytes it cannot read, from where
to where, and why. Some encodings write halves of surrogate pairs; a text that has one can be read, but it
cannot be written in UTF-8.

## Main definitions

* `Encoding` — the encodings.
* `Encoding.find` — the encoding of a name.
* `Encoding.decodeSigns`, `Encoding.decode` — the text that bytes stand for.
* `unifyNewlines` — every line end as one line feed.
* `decodeText`, `decodeFile` — the text of a file, and the text that can be written.
-/

namespace SolutionSurvey

/-- The text encodings. `utf8Signed` drops a byte order mark, units without an order ask for one, `domain`
is for names of parts that points keep apart, and `undefined` reads nothing at all. -/
inductive Encoding where
  | utf8
  | utf8Signed
  | utf7
  | units (width : UnitWidth) (order : Option ByteOrder)
  | ascii
  | latin1
  | codepage (page : Codepage)
  | escaped (raw : Bool)
  | eastAsian (e : EastAsian)
  | punycode
  | domain
  | undefined
  deriving Repr, DecidableEq, Inhabited

namespace Encoding

/-! ## Names -/

/-- A name in lower case, with each run of other characters than letters, digits and points as one
underscore, and none at the start or the end. -/
def normalizeName (name : String) : String :=
  let step (state : List Char × Bool) (c : Char) : List Char × Bool :=
    if c.toNat < 128 && (c.isAlphanum || c == '.') then
      let done := if state.2 && !state.1.isEmpty then '_' :: state.1 else state.1
      (c.toLower :: done, false)
    else (state.1, true)
  String.ofList (name.toList.foldl step ([], false)).1.reverse

/-- What goes by some names. -/
structure Named (α : Type) where
  name : String
  aliases : List String
  holder : α

/-- Whether a name in its normal form is one of these. Points in it may stand for underscores, except in
the proper name. -/
def Named.has {α : Type} (n : Named α) (name : String) : Bool :=
  n.name == name || n.aliases.contains name ||
    n.aliases.contains (name.map fun c => if c == '.' then '_' else c)

/-- The encodings that stand for themselves, with their names in normal form. -/
def basic : List (Named Encoding) :=
  [⟨"utf_8", ["u8", "utf", "utf8", "utf8_ucs2", "utf8_ucs4", "cp65001"], .utf8⟩,
   ⟨"utf_8_sig", [], .utf8Signed⟩,
   ⟨"utf_7", ["u7", "utf7", "unicode_1_1_utf_7"], .utf7⟩,
   ⟨"utf_16", ["u16", "utf16"], .units .sixteen none⟩,
   ⟨"utf_16_le", ["utf_16le", "unicodelittleunmarked"], .units .sixteen (some .little)⟩,
   ⟨"utf_16_be", ["utf_16be", "unicodebigunmarked"], .units .sixteen (some .big)⟩,
   ⟨"utf_32", ["u32", "utf32"], .units .thirtyTwo none⟩,
   ⟨"utf_32_le", ["utf_32le"], .units .thirtyTwo (some .little)⟩,
   ⟨"utf_32_be", ["utf_32be"], .units .thirtyTwo (some .big)⟩,
   ⟨"ascii", ["646", "ansi_x3.4_1968", "ansi_x3_4_1968", "ansi_x3.4_1986", "cp367", "csascii", "ibm367",
      "iso646_us", "iso_646.irv_1991", "iso_ir_6", "us", "us_ascii"], .ascii⟩,
   ⟨"latin_1", ["8859", "cp819", "csisolatin1", "ibm819", "iso8859", "iso8859_1", "iso_8859_1",
      "iso_8859_1_1987", "iso_ir_100", "l1", "latin", "latin1"], .latin1⟩,
   ⟨"charmap", [], .latin1⟩,
   ⟨"unicode_escape", [], .escaped false⟩,
   ⟨"raw_unicode_escape", [], .escaped true⟩,
   ⟨"punycode", [], .punycode⟩,
   ⟨"idna", [], .domain⟩,
   ⟨"undefined", [], .undefined⟩]

/-- All encodings with their names in normal form. -/
def all : List (Named Encoding) :=
  basic ++ (Codepage.all.map fun p => ⟨p.name, p.aliases, .codepage p⟩) ++
    EastAsian.all.map fun e => ⟨e.name, e.aliases, .eastAsian e⟩

/-- The names of transformations that go from bytes to bytes or from text to text. -/
def transformations : List (Named Unit) :=
  [⟨"base64_codec", ["base64", "base_64"], ()⟩, ⟨"bz2_codec", ["bz2"], ()⟩,
   ⟨"hex_codec", ["hex"], ()⟩, ⟨"quopri_codec", ["quopri", "quoted_printable", "quotedprintable"], ()⟩,
   ⟨"rot_13", ["rot13"], ()⟩, ⟨"uu_codec", ["uu"], ()⟩, ⟨"zlib_codec", ["zip", "zlib"], ()⟩]

/-- The encoding that goes by a name. -/
def named? (name : String) : Option Encoding :=
  let n := normalizeName name
  (all.find? fun e => e.has n).map Named.holder

/-- The encoding of a name, for someone who has another use for transformations. -/
def find (otherUse name : String) : Except Failure Encoding :=
  let n := normalizeName name
  match named? name with
  | some e => .ok e
  | none =>
    if transformations.any fun t => t.has n then .error (.notTextEncoding name otherUse)
    else .error (.unknownEncoding name)

/-! ## One byte for one character -/

/-- Decodes ASCII from position `pos` on. -/
def decodeAsciiFrom (pos : Nat) : List UInt8 → Except DecodeFault (List Char)
  | [] => .ok []
  | b :: rest =>
    if b < 128 then (decodeAsciiFrom (pos + 1) rest).map (Char.ofNat b.toNat :: ·)
    else .error ⟨"ascii", b, pos, pos + 1, "ordinal not in range(128)"⟩

/-- Decodes the bytes of a code page from position `pos` on. -/
def decodePageFrom (p : Codepage) (pos : Nat) : List UInt8 → Except DecodeFault (List Char)
  | [] => .ok []
  | b :: rest =>
    match p.char? b with
    | some c => (decodePageFrom p (pos + 1) rest).map (c :: ·)
    | none => .error ⟨"charmap", b, pos, pos + 1, "character maps to <undefined>"⟩

/-! ## ASCII with a mark -/

/-- Decodes Punycode. Its two parts are checked one after the other. -/
def decodePunycode (bs : List UInt8) : Except Failure (List Sign) := do
  let (base, numbers) := Punycode.split (· == 0x2D) bs
  let base ← (decodeAsciiFrom 0 base).mapError .undecodable
  let numbers ← (decodeAsciiFrom 0 numbers).mapError .undecodable
  Punycode.decode base numbers

/-- Decodes one part of a name: Punycode after a mark, or what it is. A name has no halves; what else the
preparation of names forbids is let through. -/
def decodeLabel (label : List Char) : Except Failure (List Char) :=
  if "xn--".toList.isPrefixOf label then
    let (base, numbers) := Punycode.split (· == '-') (label.drop 4)
    match Punycode.decode base numbers with
    | .error f => .error (.malformedText ("decoding with 'punycode' codec failed (UnicodeError: " ++ f.message ++ ")"))
    | .ok signs =>
      match signs.mapM Sign.char? with
      | some cs => .ok cs
      | none => .error (.malformedText "Invalid character in IDN label")
  else .ok label

/-- Decodes a name part by part. -/
def decodeDomain (bs : List UInt8) : Except Failure (List Char) := do
  let cs ← (decodeAsciiFrom 0 bs).mapError .undecodable
  let labels ← (cs.splitOn '.').mapM decodeLabel
  pure (['.'].intercalate labels)

/-! ## Bytes one by one -/

/-- The character of a byte by itself, for the encodings in which every byte is one character or none. -/
def single? (e : Encoding) : Option (UInt8 → Option Char) :=
  let seven (b : UInt8) : Option Char := if b < 128 then some (Char.ofNat b.toNat) else none
  match e with
  | .utf8 | .utf8Signed | .ascii => some seven
  | .latin1 | .escaped _ => some fun b => some (Char.ofNat b.toNat)
  | .codepage p => some p.char?
  | .eastAsian e => e.single?
  | _ => none

/-! ## All encodings -/

/-- The signs that bytes stand for. -/
def decodeSigns (e : Encoding) (bs : List UInt8) : Except Failure (List Sign) :=
  let plain (r : Except Failure (List Char)) : Except Failure (List Sign) := r.map (List.map .char)
  match e with
  | .utf8 => plain ((decodeUtf8 bs).mapError .undecodable)
  | .utf8Signed => plain ((decodeUtf8Signed bs).mapError .undecodable)
  | .utf7 => (decodeUtf7 bs).mapError .undecodable
  | .units w (some o) => plain ((decodeUnits w o 0 bs).mapError .undecodable)
  | .units w none => plain (decodeMarked w bs)
  | .ascii => plain ((decodeAsciiFrom 0 bs).mapError .undecodable)
  | .latin1 => .ok (bs.map fun b => .char (Char.ofNat b.toNat))
  | .codepage p => plain ((decodePageFrom p 0 bs).mapError .undecodable)
  | .escaped raw => (decodeEscaped raw bs).mapError .undecodable
  | .eastAsian e => plain ((e.decode bs).mapError .undecodable)
  | .punycode => decodePunycode bs
  | .domain => plain (decodeDomain bs)
  | .undefined => .error (.malformedText "undefined encoding")

/-- Why an encoding cannot tell what each byte means, if the reason is the encoding itself. -/
def refusal? (e : Encoding) (name : String) : Option Failure :=
  let refused (reason : String) : Option Failure :=
    some (.malformedText ("decoding with '" ++ name ++ "' codec failed (UnicodeError: " ++ reason ++ ")"))
  match e with
  | .undefined => refused "undefined encoding"
  | .domain => refused "Unsupported error handling replace"
  | .punycode => some (.undecodable ⟨"ascii", 0x80, 82, 83, "ordinal not in range(128)"⟩)
  | _ => none

/-- The text that bytes stand for. -/
def decode (e : Encoding) (bs : List UInt8) : Except Failure Wording :=
  (e.decodeSigns bs).map .ofSigns

end Encoding

/-! ## Files as text -/

/-- Every line end, whether a line feed, a carriage return or both, as one line feed. -/
def unifyNewlines : List Char → List Char
  | [] => []
  | '\r' :: '\n' :: rest => '\n' :: unifyNewlines rest
  | '\r' :: rest => '\n' :: unifyNewlines rest
  | c :: rest => c :: unifyNewlines rest

/-- The encoding of files that goes by a name. The encoding of the machine is UTF-8. -/
def Encoding.ofFile (name : String) : Except Failure Encoding :=
  if name = "locale" then .ok .utf8 else find "codecs.open()" name

/-- The text of a file's bytes in the encoding of the given name. -/
def decodeText (encoding : String) (bs : List UInt8) : Except Failure Wording := do
  let e ← Encoding.ofFile encoding
  let text ← e.decode bs
  pure (text.mapRuns fun run => String.ofList (unifyNewlines run.toList))

/-- The same text if it can be written. -/
def decodeFile (encoding : String) (bs : List UInt8) : Except Failure String := do
  (← decodeText encoding bs).written.mapError .unencodable

end SolutionSurvey
