import SolutionSurvey.Text.Encoding.BigFive
import SolutionSurvey.Text.Encoding.Designated

/-!
# East Asian encodings

The encodings of China, Japan and Korea with the names they go by.

## Main definitions

* `EastAsian.Scheme` — the ways to write characters as bytes.
* `EastAsian` — an encoding; `EastAsian.all` lists them.
* `EastAsian.decode` — the characters of bytes.
* `EastAsian.single?` — what the bytes mean one by one, where none of them belongs to another one.
-/

namespace SolutionSurvey

namespace EastAsian

open Japanese (Edition)

/-- The ways to write characters as bytes. -/
inductive Scheme where
  | gb2312
  | gbk
  | gb18030
  | hz
  | big5
  | cp950
  | hongKong
  | eucKr
  | cp949
  | johab
  | eucJp
  | eucJis (e : Edition)
  | shiftJis
  | shiftJis2004 (e : Edition)
  | cp932
  | designated (v : Designated.Variant)
  deriving Repr, DecidableEq, Inhabited

end EastAsian

/-- An encoding by its name, its other names, and its way to write characters. -/
structure EastAsian where
  name : String
  aliases : List String
  scheme : EastAsian.Scheme
  deriving Repr, DecidableEq, Inhabited

namespace EastAsian

open Multibyte (Reading stateless decodeFrom)

/-- Decodes bytes. -/
def decode (e : EastAsian) (bytes : List UInt8) : Except DecodeFault (List Char) :=
  let bs := bytes.map UInt8.toNat
  let plain (read : List Nat → Reading) := decodeFrom e.name (stateless read) () 0 0 bs
  match e.scheme with
  | .gb2312 => plain GuoBiao.readGb2312
  | .gbk => plain GuoBiao.readGbk
  | .gb18030 => plain GuoBiao.readGb18030
  | .hz => decodeFrom e.name GuoBiao.stepHz false 0 0 bs
  | .big5 => plain BigFive.readBig5
  | .cp950 => plain BigFive.readCp950
  | .hongKong => plain BigFive.readHongKong
  | .eucKr => plain Korean.readEucKr
  | .cp949 => plain Korean.readCp949
  | .johab => plain Korean.readJohab
  | .eucJp => plain Japanese.readEucJp
  | .eucJis edition => plain (Japanese.readEucJis edition)
  | .shiftJis => plain Japanese.readShiftJis
  | .shiftJis2004 edition => plain (Japanese.readShiftJis2004 edition)
  | .cp932 => plain Japanese.readCp932
  | .designated v => decodeFrom e.name (Designated.step v) {} 0 0 bs

/-- What the bytes mean one by one, where none of them belongs to another one: seven bits without the mark
that begins something else. -/
def single? (e : EastAsian) : Option (UInt8 → Option Char) :=
  let seven (mark : Nat) (b : UInt8) : Option Char :=
    if b < 128 && b.toNat != mark then some (Char.ofNat b.toNat) else none
  match e.scheme with
  | .hz => some (seven 0x7E)
  | .designated v => if v.shifts then none else some (seven Designated.escape)
  | _ => none

/-! ## The encodings -/

/-- The encodings of China. -/
def chinese : List EastAsian := [
  ⟨"big5", ["big5_tw", "csbig5", "x_mac_trad_chinese"], .big5⟩,
  ⟨"big5hkscs", ["big5_hkscs", "hkscs"], .hongKong⟩,
  ⟨"cp950", ["950", "ms950"], .cp950⟩,
  ⟨"gb18030", ["gb18030_2000"], .gb18030⟩,
  ⟨"gb2312", ["chinese", "csiso58gb231280", "euc_cn", "euccn", "eucgb2312_cn", "gb2312_1980",
    "gb2312_80", "iso_ir_58", "x_mac_simp_chinese"], .gb2312⟩,
  ⟨"gbk", ["936", "cp936", "ms936"], .gbk⟩,
  ⟨"hz", ["hzgb", "hz_gb", "hz_gb_2312"], .hz⟩]

/-- The encodings of Korea. -/
def korean : List EastAsian := [
  ⟨"cp949", ["949", "ms949", "uhc"], .cp949⟩,
  ⟨"euc_kr", ["euckr", "korean", "ksc5601", "ks_c_5601", "ks_c_5601_1987", "ksx1001", "ks_x_1001",
    "x_mac_korean"], .eucKr⟩,
  ⟨"iso2022_kr", ["csiso2022kr", "iso2022kr", "iso_2022_kr"],
    .designated ⟨[.ksX1001], true, false, false⟩⟩,
  ⟨"johab", ["cp1361", "ms1361"], .johab⟩]

/-- The encodings of Japan. -/
def japanese : List EastAsian := [
  ⟨"cp932", ["932", "ms932", "mskanji", "ms_kanji"], .cp932⟩,
  ⟨"euc_jis_2004", ["jisx0213", "eucjis2004", "euc_jis2004"], .eucJis .second⟩,
  ⟨"euc_jisx0213", ["eucjisx0213"], .eucJis .first⟩,
  ⟨"euc_jp", ["eucjp", "ujis", "u_jis"], .eucJp⟩,
  ⟨"shift_jis", ["csshiftjis", "shiftjis", "sjis", "s_jis", "x_mac_japanese"], .shiftJis⟩,
  ⟨"shift_jis_2004", ["shiftjis2004", "sjis_2004", "s_jis_2004"], .shiftJis2004 .second⟩,
  ⟨"shift_jisx0213", ["shiftjisx0213", "sjisx0213", "s_jisx0213"], .shiftJis2004 .first⟩]

/-- The encodings of Japan in seven bits. -/
def japaneseSevenBit : List EastAsian :=
  let variant (sets : List Designated.CharSet) : Scheme := .designated { sets }
  [⟨"iso2022_jp", ["csiso2022jp", "iso2022jp", "iso_2022_jp"],
      variant [.jisX0208, .roman, .jisX0208Old]⟩,
   ⟨"iso2022_jp_1", ["iso2022jp_1", "iso_2022_jp_1"],
      variant [.jisX0208, .jisX0212, .roman, .jisX0208Old]⟩,
   ⟨"iso2022_jp_2", ["iso2022jp_2", "iso_2022_jp_2"],
      .designated ⟨[.jisX0208, .jisX0212, .ksX1001, .gb2312, .roman, .jisX0208Old, .latin, .greek],
        false, true, true⟩⟩,
   ⟨"iso2022_jp_2004", ["iso_2022_jp_2004", "iso2022jp_2004"],
      variant [.jisX0213First .second, .jisX0208, .jisX0213Second]⟩,
   ⟨"iso2022_jp_3", ["iso2022jp_3", "iso_2022_jp_3"],
      variant [.jisX0213First .first, .jisX0208, .jisX0213Second]⟩,
   ⟨"iso2022_jp_ext", ["iso2022jp_ext", "iso_2022_jp_ext"],
      variant [.jisX0208, .jisX0212, .roman, .halfWidth, .jisX0208Old]⟩]

/-- All East Asian encodings. -/
def all : List EastAsian :=
  chinese ++ korean ++ japanese ++ japaneseSevenBit

end EastAsian

end SolutionSurvey
