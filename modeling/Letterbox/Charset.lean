import Letterbox.Charset.Chinese
import Letterbox.Charset.Japanese
import Letterbox.Charset.SingleByte
import Letterbox.Text.LowerCase

/-!
# Character sets

The character sets in which texts arrive, the labels that name them, and how their bytes become
characters. No bytes are refused: what has no character becomes U+FFFD.
-/

namespace Letterbox

/-- A character set. -/
inductive Charset where
  | utf8
  | utf16 (bigEndian : Bool)
  /-- One byte for a character; the table gives the upper half. -/
  | singleByte (upper : String)
  | shiftJis
  | eucJp
  | iso2022Jp
  | koreanHangul
  | big5
  | gb18030
  /-- The bytes from 0x80 on are private characters. -/
  | userDefined
  /-- A character set that is not read at all. -/
  | unreadable
deriving DecidableEq, Repr

namespace Charset

/-- The character of a byte of a single-byte set. -/
def byteLetter (upper : String) (byte : UInt8) : Char :=
  if byte < 0x80 then Char.ofNat byte.toNat
  else (upper.toList[byte.toNat - 0x80]?).getD Text.Utf8.replacement

/-- The character of a byte where the upper half is private. -/
def privateLetter (byte : UInt8) : Char :=
  if byte < 0x80 then Char.ofNat byte.toNat else Char.ofNat (0xF780 + (byte.toNat - 0x80))

/-- The characters of bytes in a character set. -/
def read (charset : Charset) (bytes : List UInt8) : List Char :=
  match charset with
  | utf8 => Text.Utf8.decode bytes
  | utf16 bigEndian => (Charset.utf16Machine bigEndian).run bytes
  | singleByte upper => bytes.map (byteLetter upper)
  | shiftJis => shiftJisMachine.run bytes
  | eucJp => eucJpMachine.run bytes
  | iso2022Jp => iso2022JpMachine.run bytes
  | koreanHangul => koreanHangulMachine.run bytes
  | big5 => big5Machine.run bytes
  | gb18030 => gb18030Machine.run bytes
  | userDefined => bytes.map privateLetter
  | unreadable => if bytes.isEmpty then [] else malformed

/-- The characters of bytes; a byte order mark at the start outweighs the character set. -/
def decode (charset : Charset) : List UInt8 → List Char
  | 0xEF :: 0xBB :: 0xBF :: rest => utf8.read rest
  | 0xFE :: 0xFF :: rest => (utf16 true).read rest
  | 0xFF :: 0xFE :: rest => (utf16 false).read rest
  | bytes => charset.read bytes

/-- The character sets with their labels. -/
def labels : List (Charset × List String) :=
  [
    (utf8,
      ["unicode-1-1-utf-8", "unicode11utf8", "unicode20utf8", "utf-8", "utf8", "x-unicode20utf8"]),
    (singleByte ibm866, ["866", "cp866", "csibm866", "ibm866"]),
    (singleByte iso8859part2,
      ["csisolatin2", "iso-8859-2", "iso-ir-101", "iso8859-2", "iso88592", "iso_8859-2",
        "iso_8859-2:1987", "l2", "latin2"]),
    (singleByte iso8859part3,
      ["csisolatin3", "iso-8859-3", "iso-ir-109", "iso8859-3", "iso88593", "iso_8859-3",
        "iso_8859-3:1988", "l3", "latin3"]),
    (singleByte iso8859part4,
      ["csisolatin4", "iso-8859-4", "iso-ir-110", "iso8859-4", "iso88594", "iso_8859-4",
        "iso_8859-4:1988", "l4", "latin4"]),
    (singleByte iso8859part5,
      ["csisolatincyrillic", "cyrillic", "iso-8859-5", "iso-ir-144", "iso8859-5", "iso88595",
        "iso_8859-5", "iso_8859-5:1988"]),
    (singleByte iso8859part6,
      ["arabic", "asmo-708", "csiso88596e", "csiso88596i", "csisolatinarabic", "ecma-114",
        "iso-8859-6", "iso-8859-6-e", "iso-8859-6-i", "iso-ir-127", "iso8859-6", "iso88596",
        "iso_8859-6", "iso_8859-6:1987"]),
    (singleByte iso8859part7,
      ["csisolatingreek", "ecma-118", "elot_928", "greek", "greek8", "iso-8859-7", "iso-ir-126",
        "iso8859-7", "iso88597", "iso_8859-7", "iso_8859-7:1987", "sun_eu_greek"]),
    (singleByte iso8859part8,
      ["csiso88598e", "csiso88598i", "csisolatinhebrew", "hebrew", "iso-8859-8", "iso-8859-8-e",
        "iso-8859-8-i", "iso-ir-138", "iso8859-8", "iso88598", "iso_8859-8", "iso_8859-8:1988",
        "logical", "visual"]),
    (singleByte iso8859part10,
      ["csisolatin6", "iso-8859-10", "iso-ir-157", "iso8859-10", "iso885910", "l6", "latin6"]),
    (singleByte iso8859part13, ["iso-8859-13", "iso8859-13", "iso885913"]),
    (singleByte iso8859part14, ["iso-8859-14", "iso8859-14", "iso885914"]),
    (singleByte iso8859part15,
      ["csisolatin9", "iso-8859-15", "iso8859-15", "iso885915", "iso_8859-15", "l9"]),
    (singleByte iso8859part16, ["iso-8859-16"]),
    (singleByte koi8R, ["cskoi8r", "koi", "koi8", "koi8-r", "koi8_r"]),
    (singleByte koi8U, ["koi8-ru", "koi8-u"]),
    (singleByte macintosh, ["csmacintosh", "mac", "macintosh", "x-mac-roman"]),
    (singleByte macCyrillic, ["x-mac-cyrillic", "x-mac-ukrainian"]),
    (singleByte windows874,
      ["dos-874", "iso-8859-11", "iso8859-11", "iso885911", "tis-620", "windows-874"]),
    (singleByte windows1250, ["cp1250", "windows-1250", "x-cp1250"]),
    (singleByte windows1251, ["cp1251", "windows-1251", "x-cp1251"]),
    (singleByte windows1252,
      ["ansi_x3.4-1968", "ascii", "cp1252", "cp819", "csisolatin1", "ibm819", "iso-8859-1",
        "iso-ir-100", "iso8859-1", "iso88591", "iso_8859-1", "iso_8859-1:1987", "l1", "latin1",
        "us-ascii", "windows-1252", "x-cp1252"]),
    (singleByte windows1253, ["cp1253", "windows-1253", "x-cp1253"]),
    (singleByte windows1254,
      ["cp1254", "csisolatin5", "iso-8859-9", "iso-ir-148", "iso8859-9", "iso88599", "iso_8859-9",
        "iso_8859-9:1989", "l5", "latin5", "windows-1254", "x-cp1254"]),
    (singleByte windows1255, ["cp1255", "windows-1255", "x-cp1255"]),
    (singleByte windows1256, ["cp1256", "windows-1256", "x-cp1256"]),
    (singleByte windows1257, ["cp1257", "windows-1257", "x-cp1257"]),
    (singleByte windows1258, ["cp1258", "windows-1258", "x-cp1258"]),
    (gb18030,
      ["chinese", "csgb2312", "csiso58gb231280", "gb18030", "gb2312", "gb_2312", "gb_2312-80", "gbk",
        "iso-ir-58", "x-gbk"]),
    (big5, ["big5", "big5-hkscs", "cn-big5", "csbig5", "x-x-big5"]),
    (eucJp, ["cseucpkdfmtjapanese", "euc-jp", "x-euc-jp"]),
    (iso2022Jp, ["csiso2022jp", "iso-2022-jp"]),
    (shiftJis,
      ["csshiftjis", "ms932", "ms_kanji", "shift-jis", "shift_jis", "sjis", "windows-31j", "x-sjis"]),
    (koreanHangul,
      ["cseuckr", "csksc56011987", "euc-kr", "iso-ir-149", "korean", "ks_c_5601-1987",
        "ks_c_5601-1989", "ksc5601", "ksc_5601", "windows-949"]),
    (unreadable,
      ["csiso2022kr", "hz-gb-2312", "iso-2022-cn", "iso-2022-cn-ext", "iso-2022-kr", "replacement"]),
    (utf16 true, ["unicodefffe", "utf-16be"]),
    (utf16 false,
      ["csunicode", "iso-10646-ucs-2", "ucs-2", "unicode", "unicodefeff", "utf-16", "utf-16le"]),
    (userDefined, ["x-user-defined"])
  ]

/-- The characters that may stand around a label. -/
def isLabelSpace (letter : Char) : Bool :=
  letter == ' ' || letter == '\t' || letter == '\n' || letter == '\x0c' || letter == '\r'

/-- A label without spaces around it, in lower case. -/
def trimLabel (label : String) : String :=
  let trimmed := ((label.toList.dropWhile isLabelSpace).reverse.dropWhile isLabelSpace).reverse
  Text.lowerAscii (String.ofList trimmed)

/-- The character set with a label. -/
def labelled? (label : String) : Option Charset :=
  (labels.find? fun row => row.2.contains (trimLabel label)).map (·.1)

end Charset

end Letterbox
