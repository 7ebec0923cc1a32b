import Tabular.Encoding.CodePage
import Tabular.Encoding.Utf16
import Tabular.Text.Blank

/-!
# Encodings of text

How bytes become text. An encoding is chosen by one of its many labels, but **a byte order mark at
the beginning of the bytes overrides the choice** and is removed. Bytes that do not follow the rules
of their encoding are refused as a whole. The legacy encodings of more than one byte, and the rarer
ones of one byte, are known by name and label only: their tables are those of a library, and **such an
encoding comes with the decoder that the library has for it**.
-/

namespace Tabular

/-- A way to write text in bytes. A `foreign` one comes with its decoder, which gives the text of bytes
without a byte order mark if they are well-formed. -/
inductive Encoding where
  | utf8
  | utf16le
  | utf16be
  | page (p : CodePage)
  | userDefined
  | replacement
  | foreign (name : String) (text? : List UInt8 → Option String)

namespace Encoding

instance : Inhabited Encoding := ⟨utf8⟩

/-- The name of an encoding. -/
def name : Encoding → String
  | utf8 => "UTF-8"
  | utf16le => "UTF-16LE"
  | utf16be => "UTF-16BE"
  | page p => p.name
  | userDefined => "x-user-defined"
  | replacement => "replacement"
  | foreign name _ => name

/-! ### Labels -/

/-- The decoders of a library, by the names of their encodings. -/
abbrev Decoders := String → List UInt8 → Option String

/-- The labels of every encoding; those that are foreign are decoded by a library. -/
def labels (decoders : Decoders) : List (Encoding × List String) :=
  let foreign (name : String) : Encoding := .foreign name (decoders name)
  [(utf8, ["unicode-1-1-utf-8", "unicode11utf8", "unicode20utf8", "utf-8", "utf8",
     "x-unicode20utf8"]),
   (foreign "IBM866", ["866", "cp866", "csibm866", "ibm866"]),
   (page .latin2, ["csisolatin2", "iso-8859-2", "iso-ir-101", "iso8859-2", "iso88592",
     "iso_8859-2", "iso_8859-2:1987", "l2", "latin2"]),
   (foreign "ISO-8859-3", ["csisolatin3", "iso-8859-3", "iso-ir-109", "iso8859-3",
     "iso88593", "iso_8859-3", "iso_8859-3:1988", "l3", "latin3"]),
   (foreign "ISO-8859-4", ["csisolatin4", "iso-8859-4", "iso-ir-110", "iso8859-4",
     "iso88594", "iso_8859-4", "iso_8859-4:1988", "l4", "latin4"]),
   (foreign "ISO-8859-5", ["csisolatincyrillic", "cyrillic", "iso-8859-5", "iso-ir-144",
     "iso8859-5", "iso88595", "iso_8859-5", "iso_8859-5:1988"]),
   (foreign "ISO-8859-6", ["arabic", "asmo-708", "csiso88596e", "csiso88596i",
     "csisolatinarabic", "ecma-114", "iso-8859-6", "iso-8859-6-e", "iso-8859-6-i",
     "iso-ir-127", "iso8859-6", "iso88596", "iso_8859-6", "iso_8859-6:1987"]),
   (foreign "ISO-8859-7", ["csisolatingreek", "ecma-118", "elot_928", "greek", "greek8",
     "iso-8859-7", "iso-ir-126", "iso8859-7", "iso88597", "iso_8859-7", "iso_8859-7:1987",
     "sun_eu_greek"]),
   (foreign "ISO-8859-8", ["csiso88598e", "csisolatinhebrew", "hebrew", "iso-8859-8",
     "iso-8859-8-e", "iso-ir-138", "iso8859-8", "iso88598", "iso_8859-8", "iso_8859-8:1988",
     "visual"]),
   (foreign "ISO-8859-8-I", ["csiso88598i", "iso-8859-8-i", "logical"]),
   (foreign "ISO-8859-10", ["csisolatin6", "iso-8859-10", "iso-ir-157", "iso8859-10",
     "iso885910", "l6", "latin6"]),
   (foreign "ISO-8859-13", ["iso-8859-13", "iso8859-13", "iso885913"]),
   (foreign "ISO-8859-14", ["iso-8859-14", "iso8859-14", "iso885914"]),
   (page .latin9, ["csisolatin9", "iso-8859-15", "iso8859-15", "iso885915", "iso_8859-15",
     "l9"]),
   (foreign "ISO-8859-16", ["iso-8859-16"]),
   (page .koi8r, ["cskoi8r", "koi", "koi8", "koi8-r", "koi8_r"]),
   (foreign "KOI8-U", ["koi8-ru", "koi8-u"]),
   (page .macintosh, ["csmacintosh", "mac", "macintosh", "x-mac-roman"]),
   (foreign "windows-874", ["dos-874", "iso-8859-11", "iso8859-11", "iso885911", "tis-620",
     "windows-874"]),
   (foreign "windows-1250", ["cp1250", "windows-1250", "x-cp1250"]),
   (page .windows1251, ["cp1251", "windows-1251", "x-cp1251"]),
   (page .windows1252, ["ansi_x3.4-1968", "ascii", "cp1252", "cp819", "csisolatin1", "ibm819",
     "iso-8859-1", "iso-ir-100", "iso8859-1", "iso88591", "iso_8859-1", "iso_8859-1:1987",
     "l1", "latin1", "us-ascii", "windows-1252", "x-cp1252"]),
   (foreign "windows-1253", ["cp1253", "windows-1253", "x-cp1253"]),
   (foreign "windows-1254", ["cp1254", "csisolatin5", "iso-8859-9", "iso-ir-148",
     "iso8859-9", "iso88599", "iso_8859-9", "iso_8859-9:1989", "l5", "latin5",
     "windows-1254", "x-cp1254"]),
   (foreign "windows-1255", ["cp1255", "windows-1255", "x-cp1255"]),
   (foreign "windows-1256", ["cp1256", "windows-1256", "x-cp1256"]),
   (foreign "windows-1257", ["cp1257", "windows-1257", "x-cp1257"]),
   (foreign "windows-1258", ["cp1258", "windows-1258", "x-cp1258"]),
   (foreign "x-mac-cyrillic", ["x-mac-cyrillic", "x-mac-ukrainian"]),
   (foreign "GBK", ["chinese", "csgb2312", "csiso58gb231280", "gb2312", "gb_2312",
     "gb_2312-80", "gbk", "iso-ir-58", "x-gbk"]),
   (foreign "gb18030", ["gb18030"]),
   (foreign "Big5", ["big5", "big5-hkscs", "cn-big5", "csbig5", "x-x-big5"]),
   (foreign "EUC-JP", ["cseucpkdfmtjapanese", "euc-jp", "x-euc-jp"]),
   (foreign "ISO-2022-JP", ["csiso2022jp", "iso-2022-jp"]),
   (foreign "Shift_JIS", ["csshiftjis", "ms932", "ms_kanji", "shift-jis", "shift_jis",
     "sjis", "windows-31j", "x-sjis"]),
   (foreign "EUC-KR", ["cseuckr", "csksc56011987", "euc-kr", "iso-ir-149", "korean",
     "ks_c_5601-1987", "ks_c_5601-1989", "ksc5601", "ksc_5601", "windows-949"]),
   (replacement, ["csiso2022kr", "hz-gb-2312", "iso-2022-cn", "iso-2022-cn-ext", "iso-2022-kr",
     "replacement"]),
   (utf16be, ["unicodefffe", "utf-16be"]),
   (utf16le, ["csunicode", "iso-10646-ucs-2", "ucs-2", "unicode", "unicodefeff", "utf-16",
     "utf-16le"]),
   (userDefined, ["x-user-defined"])]

/-- Whether `c` is a blank of ASCII that may stand around a label. -/
def isLabelBlank (c : Char) : Bool :=
  c == '\t' || c == '\n' || c == '\x0c' || c == '\r' || c == ' '

/-- The encoding of a label, in any case and between blanks. -/
def ofLabel? (decoders : Decoders) (s : String) : Option Encoding :=
  let label := String.ofList <| Text.toAsciiSmall <| Text.strip isLabelBlank <| Text.trim s.toList
  ((labels decoders).find? (·.2.contains label)).map (·.1)

/-! ### Decoding -/

/-- The text of bytes without a byte order mark, if they are well-formed. -/
def decodeBare? (e : Encoding) (bytes : List UInt8) : Option String :=
  match e with
  | utf8 => String.fromUTF8? bytes.toByteArray
  | utf16le => (Utf16.units? false bytes).bind Utf16.text?
  | utf16be => (Utf16.units? true bytes).bind Utf16.text?
  | page p => some (String.ofList (bytes.map p.char))
  | userDefined =>
    some <| String.ofList <| bytes.map fun b =>
      Char.ofNat (if b < 0x80 then b.toNat else 0xF700 + b.toNat)
  | replacement => if bytes.isEmpty then some "" else none
  | foreign _ text? => text? bytes

/-- The encoding that a byte order mark tells, else the given one, and the bytes without the
mark. -/
def sniff (e : Encoding) : List UInt8 → Encoding × List UInt8
  | 0xEF :: 0xBB :: 0xBF :: bytes => (utf8, bytes)
  | 0xFF :: 0xFE :: bytes => (utf16le, bytes)
  | 0xFE :: 0xFF :: bytes => (utf16be, bytes)
  | bytes => (e, bytes)

/-- The text of bytes, if they are well-formed. -/
def decode? (e : Encoding) (bytes : List UInt8) : Option String :=
  let (e, bytes) := e.sniff bytes
  e.decodeBare? bytes

end Encoding

end Tabular
