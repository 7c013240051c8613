import Letterbox.Charset
import Letterbox.Text.Base64

/-!
# Character sets in mail

The names of character sets in mail are the registered ones, in any case and with hyphens or low lines.
They differ from the labels elsewhere: UTF-7 and IBM850 are known, UTF-16 may start with a byte order
mark, and the multi-byte sets of East Asia are unknown. Bytes in an unknown character set are read as
UTF-8.
-/

namespace Letterbox.Charset

/-- The letters of 16-bit units in base64 digits; an odd last byte does not count. -/
def utf7Letters (digits : List Nat) : List Char :=
  let rec groups : List Nat → List UInt8
    | one :: two :: three :: four :: rest =>
      Text.Base64.groupBytes [one, two, three, four] ++ groups rest
    | [_] => []
    | rest => Text.Base64.groupBytes rest
  let bytes := groups digits
  (utf16Machine true).run (bytes.take (bytes.length / 2 * 2))

/--
UTF-7; the state holds the base64 digits since a plus sign. A minus sign ends them; without any digits
both signs stand for themselves.
-/
def utf7Machine : Machine (Option (List Nat)) where
  start := none
  feed state byte :=
    match state with
    | none => if byte = 0x2B then ([], some []) else ([Char.ofNat byte], none)
    | some digits =>
      match Text.Base64.digit? (UInt8.ofNat byte) with
      | some digit => ([], some (digits ++ [digit]))
      | none =>
        if digits.isEmpty then (['+', Char.ofNat byte], none)
        else if byte = 0x2D then (utf7Letters digits, none)
        else (utf7Letters digits ++ [Char.ofNat byte], none)
  finish
    | none => []
    | some [] => ['+']
    | some digits => utf7Letters digits

/-- The letters of whole 16-bit units. -/
def wholeUtf16 (bigEndian : Bool) (bytes : List UInt8) : List Char :=
  (utf16Machine bigEndian).run (bytes.take (bytes.length / 2 * 2))

/-- UTF-16 whose byte order a mark may give; without a mark the low byte comes first. -/
def markedUtf16 : List UInt8 → List Char
  | 0xFE :: 0xFF :: rest => wholeUtf16 true rest
  | 0xFF :: 0xFE :: rest => wholeUtf16 false rest
  | bytes => wholeUtf16 false bytes

/-- A set of which the bytes from 0x80 to 0x9F have no control characters. -/
def withoutControls (upper : String) : String :=
  String.ofList (upper.toList.map fun letter =>
    if letter.toNat < 0xA0 then Text.Utf8.replacement else letter)

/-- The upper half of TIS-620, which starts behind the control characters and the space. -/
def tis620 : String :=
  String.ofList (List.replicate 33 Text.Utf8.replacement ++ windows874.toList.drop 33)

/-- The upper half of ISO-8859-9, which is that of windows-1254 with control characters. -/
def iso8859part9 : String :=
  upperControls ++ String.ofList (windows1254.toList.drop 32)

/-- The upper half of KOI8-U as it is registered, with two box drawings more than elsewhere. -/
def registeredKoi8U : String :=
  String.ofList (koi8U.toList.map fun letter =>
    if letter == 'ў' then '╝' else if letter == 'Ў' then '╬' else letter)

/-- The single-byte sets of mail with their names, in lower case and with hyphens. -/
def mailSets : List (String × List String) :=
  [
    (iso8859part2,
      ["csisolatin2", "iso-8859-2", "iso-8859-2:1987", "iso-ir-101", "iso8859-2", "iso88592", "l2",
        "latin2"]),
    (iso8859part3,
      ["csisolatin3", "iso-8859-3", "iso-8859-3:1988", "iso-ir-109", "iso8859-3", "iso88593", "l3",
        "latin3"]),
    (iso8859part4,
      ["csisolatin4", "iso-8859-4", "iso-8859-4:1988", "iso-ir-110", "iso8859-4", "iso88594", "l4",
        "latin4"]),
    (iso8859part5,
      ["csisolatincyrillic", "cyrillic", "iso-8859-5", "iso-8859-5:1988", "iso-ir-144", "iso8859-5",
        "iso88595"]),
    (iso8859part6,
      ["arabic", "asmo-708", "csiso88596e", "csiso88596i", "csisolatinarabic", "ecma-114",
        "iso-8859-6", "iso-8859-6-e", "iso-8859-6-i", "iso-8859-6:1987", "iso-ir-127", "iso8859-6",
        "iso88596"]),
    (iso8859part7,
      ["csisolatingreek", "ecma-118", "elot-928", "greek", "greek8", "iso-8859-7", "iso-8859-7:1987",
        "iso-ir-126", "iso8859-7", "iso88597"]),
    (iso8859part8,
      ["csiso88598e", "csiso88598i", "csisolatinhebrew", "hebrew", "iso-8859-8", "iso-8859-8-e",
        "iso-8859-8-i", "iso-8859-8:1988", "iso-ir-138", "iso8859-8", "iso88598"]),
    (iso8859part9,
      ["csisolatin5", "iso-8859-9", "iso-8859-9:1989", "iso-ir-148", "iso8859-9", "iso88599", "l5",
        "latin5"]),
    (iso8859part10,
      ["csisolatin6", "iso-8859-10", "iso-8859-10:1992", "iso-ir-157", "iso8859-10", "iso885910", "l6",
        "latin6"]),
    (iso8859part13, ["csiso885913", "iso-8859-13", "iso8859-13", "iso885913"]),
    (iso8859part14,
      ["csiso885914", "iso-8859-14", "iso-8859-14:1998", "iso-celtic", "iso-ir-199", "iso8859-14",
        "iso885914", "l8", "latin8"]),
    (iso8859part15,
      ["csiso885915", "csisolatin9", "iso-8859-15", "iso8859-15", "iso885915", "l9", "latin-9"]),
    (iso8859part16,
      ["csiso885916", "iso-8859-16", "iso-8859-16:2001", "iso-ir-226", "l10", "latin10"]),
    (tis620, ["cstis620", "iso-8859-11", "iso8859-11", "iso885911", "tis-620"]),
    (koi8R, ["cskoi8r", "koi", "koi8", "koi8-r"]),
    (registeredKoi8U, ["cskoi8u", "koi8-ru", "koi8-u"]),
    (macintosh, ["csmacintosh", "mac", "macintosh", "x-mac-roman"]),
    (ibm850, ["850", "cp850", "cspc850multilingual", "ibm850"]),
    (withoutControls windows1250, ["cp1250", "cswindows1250", "windows-1250", "x-cp1250"]),
    (withoutControls windows1251, ["cp1251", "cswindows1251", "windows-1251", "x-cp1251"]),
    (withoutControls windows1252,
      ["ansi-x3.4-1968", "ansi-x3.4-1986", "ascii", "cp1252", "cp367", "cp819", "csascii",
        "csisolatin1", "cswindows1252", "ibm367", "ibm819", "iso-646.irv:1991", "iso-8859-1",
        "iso-8859-1:1987", "iso-ir-100", "iso-ir-6", "iso646-us", "iso8859-1", "iso88591", "l1",
        "latin1", "us", "us-ascii", "windows-1252", "x-cp1252"]),
    (withoutControls windows1253, ["cp1253", "cswindows1253", "windows-1253", "x-cp1253"]),
    (withoutControls windows1254, ["cp1254", "cswindows1254", "windows-1254", "x-cp1254"]),
    (withoutControls windows1255, ["cp1255", "cswindows1255", "windows-1255", "x-cp1255"]),
    (withoutControls windows1256, ["cp1256", "cswindows1256", "windows-1256", "x-cp1256"]),
    (withoutControls windows1257, ["cp1257", "cswindows1257", "windows-1257", "x-cp1257"]),
    (withoutControls windows1258, ["cp1258", "cswindows1258", "windows-1258", "x-cp1258"])
  ]

/-- A name in lower case and with hyphens. -/
def mailName (name : String) : String :=
  String.ofList ((Text.lowerAscii name).toList.map fun letter => if letter == '_' then '-' else letter)

/-- How bytes are read in the character set that a mail names, if it is known. -/
def mailReader? (name : String) : Option (List UInt8 → List Char) :=
  match mailName name with
  | "utf-7" | "csutf7" | "unicode-1-1-utf-7" => some utf7Machine.run
  | "utf-16" | "csutf16" | "ucs-2" | "iso-10646-ucs-2" | "csunicode" => some markedUtf16
  | "utf-16be" | "csutf16be" => some (wholeUtf16 true)
  | "utf-16le" | "csutf16le" => some (wholeUtf16 false)
  | label =>
    (mailSets.find? fun row => row.2.contains label).map fun row => (singleByte row.1).read

/-- The characters of bytes in the character set that a mail names. -/
def readMail (name : Option String) (bytes : List UInt8) : List Char :=
  match name.bind mailReader? with
  | some reader => reader bytes
  | none => Text.Utf8.decode bytes

end Letterbox.Charset
