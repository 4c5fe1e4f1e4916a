import MarketDesk.Text.Chinese
import MarketDesk.Text.CodePage
import MarketDesk.Text.Japanese
import MarketDesk.Text.Korean
import MarketDesk.Text.Utf8

/-!
# Character sets of replies

A text body is read by the character set that its content type names, and as UTF-8 if it names none
that is known. The sets and their labels are those of the web. A byte order mark in front decides
over the label and is dropped. Every byte sequence has a reading; what is broken becomes U+FFFD.
-/

namespace MarketDesk.Text

/-- A character set. -/
inductive Charset where
  | utf8
  | utf16 (bigEndian : Bool)
  | page (p : CodePage)
  | gb18030
  | big5
  | eucJp
  | iso2022Jp
  | shiftJis
  | eucKr
  /-- Sets that are not read for safety: whatever stands there is one broken character. -/
  | replacement
  /-- Bytes beyond ASCII are characters for private use. -/
  | userDefined
  deriving DecidableEq, Repr

namespace Utf16

/-- The unit of two bytes. -/
def unit (bigEndian : Bool) (a b : Nat) : Nat := if bigEndian then 256 * a + b else 256 * b + a

/-- The unit is the first of a pair. -/
def isHigh (u : Nat) : Bool := 0xD800 ≤ u && u < 0xDC00

/-- The unit is the second of a pair. -/
def isLow (u : Nat) : Bool := 0xDC00 ≤ u && u < 0xE000

/-- The piece at the front of bytes, a unit or a pair of units. Half a pair at the end takes a lone
byte behind it. -/
def front (bigEndian : Bool) (a : Nat) : List Nat → Piece Unit
  | [] => .broken 0 ()
  | b :: rest =>
    let u := unit bigEndian a b
    if isHigh u then
      match rest with
      | [] => .broken 1 ()
      | [_] => .broken 2 ()
      | c :: d :: _ =>
        let v := unit bigEndian c d
        if isLow v then ⟨[Char.ofNat (0x10000 + (u - 0xD800) * 0x400 + (v - 0xDC00))], 3, ()⟩
        else .broken 1 ()
    else if isLow u then .broken 1 ()
    else ⟨[Char.ofNat u], 1, ()⟩

/-- Reads bytes. -/
def read (bigEndian : Bool) (bytes : List Nat) : List Char :=
  Piece.read (fun _ => front bigEndian) () 0 bytes

end Utf16

namespace Charset

/-- The character of a byte in the set for private use. -/
def userChar (b : UInt8) : Char := Char.ofNat (if b < 0x80 then b.toNat else 0xF700 + b.toNat)

/-- The labels of the character sets. -/
def labels : List (Charset × String) :=
  [(.utf8, "unicode-1-1-utf-8 unicode11utf8 unicode20utf8 utf-8 utf8 x-unicode20utf8"),
    (.page .ibm866, "866 cp866 csibm866 ibm866"),
    (.page .iso2, "csisolatin2 iso-8859-2 iso-ir-101 iso8859-2 iso88592 iso_8859-2
      iso_8859-2:1987 l2 latin2"),
    (.page .iso3, "csisolatin3 iso-8859-3 iso-ir-109 iso8859-3 iso88593 iso_8859-3
      iso_8859-3:1988 l3 latin3"),
    (.page .iso4, "csisolatin4 iso-8859-4 iso-ir-110 iso8859-4 iso88594 iso_8859-4
      iso_8859-4:1988 l4 latin4"),
    (.page .iso5, "csisolatincyrillic cyrillic iso-8859-5 iso-ir-144 iso8859-5 iso88595
      iso_8859-5 iso_8859-5:1988"),
    (.page .iso6, "arabic asmo-708 csiso88596e csiso88596i csisolatinarabic ecma-114 iso-8859-6
      iso-8859-6-e iso-8859-6-i iso-ir-127 iso8859-6 iso88596 iso_8859-6 iso_8859-6:1987"),
    (.page .iso7, "csisolatingreek ecma-118 elot_928 greek greek8 iso-8859-7 iso-ir-126 iso8859-7
      iso88597 iso_8859-7 iso_8859-7:1987 sun_eu_greek"),
    (.page .iso8, "csiso88598e csisolatinhebrew hebrew iso-8859-8 iso-8859-8-e iso-ir-138
      iso8859-8 iso88598 iso_8859-8 iso_8859-8:1988 visual csiso88598i iso-8859-8-i logical"),
    (.page .iso10, "csisolatin6 iso-8859-10 iso-ir-157 iso8859-10 iso885910 l6 latin6"),
    (.page .iso13, "iso-8859-13 iso8859-13 iso885913"),
    (.page .iso14, "iso-8859-14 iso8859-14 iso885914"),
    (.page .iso15, "csisolatin9 iso-8859-15 iso8859-15 iso885915 iso_8859-15 l9"),
    (.page .iso16, "iso-8859-16"),
    (.page .koi8R, "cskoi8r koi koi8 koi8-r koi8_r"),
    (.page .koi8U, "koi8-ru koi8-u"),
    (.page .macRoman, "csmacintosh mac macintosh x-mac-roman"),
    (.page .macCyrillic, "x-mac-cyrillic x-mac-ukrainian"),
    (.page .windows874, "dos-874 iso-8859-11 iso8859-11 iso885911 tis-620 windows-874"),
    (.page .windows1250, "cp1250 windows-1250 x-cp1250"),
    (.page .windows1251, "cp1251 windows-1251 x-cp1251"),
    (.page .windows1252, "ansi_x3.4-1968 ascii cp1252 cp819 csisolatin1 ibm819 iso-8859-1
      iso-ir-100 iso8859-1 iso88591 iso_8859-1 iso_8859-1:1987 l1 latin1 us-ascii windows-1252
      x-cp1252"),
    (.page .windows1253, "cp1253 windows-1253 x-cp1253"),
    (.page .windows1254, "cp1254 csisolatin5 iso-8859-9 iso-ir-148 iso8859-9 iso88599 iso_8859-9
      iso_8859-9:1989 l5 latin5 windows-1254 x-cp1254"),
    (.page .windows1255, "cp1255 windows-1255 x-cp1255"),
    (.page .windows1256, "cp1256 windows-1256 x-cp1256"),
    (.page .windows1257, "cp1257 windows-1257 x-cp1257"),
    (.page .windows1258, "cp1258 windows-1258 x-cp1258"),
    (.gb18030, "chinese csgb2312 csiso58gb231280 gb2312 gb_2312 gb_2312-80 gbk iso-ir-58 x-gbk
      gb18030"),
    (.big5, "big5 big5-hkscs cn-big5 csbig5 x-x-big5"),
    (.eucJp, "cseucpkdfmtjapanese euc-jp x-euc-jp"),
    (.iso2022Jp, "csiso2022jp iso-2022-jp"),
    (.shiftJis, "csshiftjis ms932 ms_kanji shift-jis shift_jis sjis windows-31j x-sjis"),
    (.eucKr, "cseuckr csksc56011987 euc-kr iso-ir-149 korean ks_c_5601-1987 ks_c_5601-1989
      ksc5601 ksc_5601 windows-949"),
    (.replacement, "csiso2022kr hz-gb-2312 iso-2022-cn iso-2022-cn-ext iso-2022-kr replacement"),
    (.utf16 true, "unicodefffe utf-16be"),
    (.utf16 false, "csunicode iso-10646-ucs-2 ucs-2 unicode unicodefeff utf-16 utf-16le"),
    (.userDefined, "x-user-defined")]

/-- The character set with a label, which has no capital letters. -/
def ofLabel? (label : String) : Option Charset :=
  (labels.find? fun (_, names) => (words names.toList).contains label.toList).map Prod.fst

/-- Reads bytes without regard to a mark. -/
def read : Charset → List UInt8 → List Char
  | .utf8, bytes => Utf8.decodeLossy bytes
  | .utf16 bigEndian, bytes => Utf16.read bigEndian (bytes.map UInt8.toNat)
  | .page p, bytes => p.read bytes
  | .gb18030, bytes => Gb18030.read (bytes.map UInt8.toNat)
  | .big5, bytes => Big5.read (bytes.map UInt8.toNat)
  | .eucJp, bytes => EucJp.read (bytes.map UInt8.toNat)
  | .iso2022Jp, bytes => Iso2022Jp.read (bytes.map UInt8.toNat)
  | .shiftJis, bytes => ShiftJis.read (bytes.map UInt8.toNat)
  | .eucKr, bytes => EucKr.read (bytes.map UInt8.toNat)
  | .replacement, bytes => if bytes.isEmpty then [] else ['\uFFFD']
  | .userDefined, bytes => bytes.map userChar

/-- Reads bytes; a byte order mark decides over the given character set. -/
def decode (charset : Charset) : List UInt8 → List Char
  | 0xEF :: 0xBB :: 0xBF :: bytes => read .utf8 bytes
  | 0xFF :: 0xFE :: bytes => read (.utf16 false) bytes
  | 0xFE :: 0xFF :: bytes => read (.utf16 true) bytes
  | bytes => read charset bytes

end Charset

end MarketDesk.Text
