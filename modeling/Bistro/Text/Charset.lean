import Bistro.Text.CodePage
import Bistro.Text.MediaType
import Bistro.Text.Multibyte
import Bistro.Text.Utf8

/-!
# Encodings of bodies

The body of an answer is read in the encoding that its content type names, as UTF-8 if it names none
or an unknown one. A byte order mark at the front decides before the name does, and is dropped.
-/

namespace Bistro

inductive Charset where
  | utf8
  | utf16 (bigEndian : Bool)
  | page (table : CodeTable)
  | multibyte (e : Multibyte)
  /-- An encoding that is not to be trusted: nothing of the body is read. -/
  | refused
  deriving DecidableEq, Repr

namespace Charset

/-- The character of a byte on a code page. -/
def pageChar (table : CodeTable) (b : UInt8) : Char :=
  let c := Char.ofNat b.toNat
  if b < 0x80 then c
  else ((table.find? c).bind fun r => (r.charsAt c).head?).getD Utf8.replacement

/-- The unit of 16 bits that two bytes are. -/
def unit (bigEndian : Bool) (a b : UInt8) : Nat :=
  if bigEndian then a.toNat * 0x100 + b.toNat else b.toNat * 0x100 + a.toNat

def isHighHalf (n : Nat) : Bool :=
  0xD800 ≤ n && n < 0xDC00

def isLowHalf (n : Nat) : Bool :=
  0xDC00 ≤ n && n < 0xE000

/-- The characters of units. A half without its other half is replaced; at the end of the bytes, it
is replaced together with the byte that may be left over. -/
def wideChars (bigEndian : Bool) : List UInt8 → List Char
  | a :: b :: c :: d :: rest =>
    let n := unit bigEndian a b
    let m := unit bigEndian c d
    if isHighHalf n && isLowHalf m then
      Char.ofNat (0x10000 + (n - 0xD800) * 0x400 + (m - 0xDC00)) :: wideChars bigEndian rest
    else if isHighHalf n || isLowHalf n then
      Utf8.replacement :: wideChars bigEndian (c :: d :: rest)
    else Char.ofNat n :: wideChars bigEndian (c :: d :: rest)
  | a :: b :: rest =>
    let n := unit bigEndian a b
    if isHighHalf n then [Utf8.replacement]
    else
      (if isLowHalf n then Utf8.replacement else Char.ofNat n) :: wideChars bigEndian rest
  | [_] => [Utf8.replacement]
  | [] => []

/-- Reads bytes without a byte order mark. -/
def read (charset : Charset) (bytes : List UInt8) : String :=
  match charset with
  | .utf8 => Utf8.read bytes
  | .utf16 bigEndian => String.ofList (wideChars bigEndian bytes)
  | .page table => String.ofList (bytes.map (pageChar table))
  | .multibyte e => String.ofList (e.read bytes)
  | .refused => if bytes.isEmpty then "" else Utf8.replacement.toString

/-- The names of the encodings, in lower case and with blanks between them. -/
def names : List (String × Charset) := [
  ("csunicode iso-10646-ucs-2 ucs-2 unicode unicodefeff utf-16 utf-16le", .utf16 false),
  ("unicodefffe utf-16be", .utf16 true),
  ("866 cp866 csibm866 ibm866", .page CodePage.ibm866),
  ("csisolatin2 iso-8859-2 iso-ir-101 iso8859-2 iso88592 iso_8859-2 iso_8859-2:1987 l2 latin2",
    .page CodePage.iso8859_2),
  ("csisolatin3 iso-8859-3 iso-ir-109 iso8859-3 iso88593 iso_8859-3 iso_8859-3:1988 l3 latin3",
    .page CodePage.iso8859_3),
  ("csisolatin4 iso-8859-4 iso-ir-110 iso8859-4 iso88594 iso_8859-4 iso_8859-4:1988 l4 latin4",
    .page CodePage.iso8859_4),
  ("csisolatincyrillic cyrillic iso-8859-5 iso-ir-144 iso8859-5 iso88595 iso_8859-5
    iso_8859-5:1988", .page CodePage.iso8859_5),
  ("arabic asmo-708 csiso88596e csiso88596i csisolatinarabic ecma-114 iso-8859-6 iso-8859-6-e
    iso-8859-6-i iso-ir-127 iso8859-6 iso88596 iso_8859-6 iso_8859-6:1987",
    .page CodePage.iso8859_6),
  ("csisolatingreek ecma-118 elot_928 greek greek8 iso-8859-7 iso-ir-126 iso8859-7 iso88597
    iso_8859-7 iso_8859-7:1987 sun_eu_greek", .page CodePage.iso8859_7),
  ("csiso88598e csiso88598i csisolatinhebrew hebrew iso-8859-8 iso-8859-8-e iso-8859-8-i iso-ir-138
    iso8859-8 iso88598 iso_8859-8 iso_8859-8:1988 logical visual", .page CodePage.iso8859_8),
  ("csisolatin6 iso-8859-10 iso-ir-157 iso8859-10 iso885910 l6 latin6", .page CodePage.iso8859_10),
  ("iso-8859-13 iso8859-13 iso885913", .page CodePage.iso8859_13),
  ("iso-8859-14 iso8859-14 iso885914", .page CodePage.iso8859_14),
  ("csisolatin9 iso-8859-15 iso8859-15 iso885915 iso_8859-15 l9", .page CodePage.iso8859_15),
  ("iso-8859-16", .page CodePage.iso8859_16),
  ("cskoi8r koi koi8 koi8-r koi8_r", .page CodePage.koi8r),
  ("koi8-ru koi8-u", .page CodePage.koi8u),
  ("csmacintosh mac macintosh x-mac-roman", .page CodePage.macintosh),
  ("x-mac-cyrillic x-mac-ukrainian", .page CodePage.macCyrillic),
  ("dos-874 iso-8859-11 iso8859-11 iso885911 tis-620 windows-874", .page CodePage.windows874),
  ("cp1250 windows-1250 x-cp1250", .page CodePage.windows1250),
  ("cp1251 windows-1251 x-cp1251", .page CodePage.windows1251),
  ("ansi_x3.4-1968 ascii cp1252 cp819 csisolatin1 ibm819 iso-8859-1 iso-ir-100 iso8859-1 iso88591
    iso_8859-1 iso_8859-1:1987 l1 latin1 us-ascii windows-1252 x-cp1252",
    .page CodePage.windows1252),
  ("cp1253 windows-1253 x-cp1253", .page CodePage.windows1253),
  ("cp1254 csisolatin5 iso-8859-9 iso-ir-148 iso8859-9 iso88599 iso_8859-9 iso_8859-9:1989 l5 latin5
    windows-1254 x-cp1254", .page CodePage.windows1254),
  ("cp1255 windows-1255 x-cp1255", .page CodePage.windows1255),
  ("cp1256 windows-1256 x-cp1256", .page CodePage.windows1256),
  ("cp1257 windows-1257 x-cp1257", .page CodePage.windows1257),
  ("cp1258 windows-1258 x-cp1258", .page CodePage.windows1258),
  ("x-user-defined", .page CodePage.userDefined),
  ("chinese csgb2312 csiso58gb231280 gb18030 gb2312 gb_2312 gb_2312-80 gbk iso-ir-58 x-gbk",
    .multibyte .gb18030),
  ("big5 big5-hkscs cn-big5 csbig5 x-x-big5", .multibyte .big5),
  ("cseucpkdfmtjapanese euc-jp x-euc-jp", .multibyte .eucJp),
  ("csiso2022jp iso-2022-jp", .multibyte .iso2022Jp),
  ("csshiftjis ms932 ms_kanji shift-jis shift_jis sjis windows-31j x-sjis", .multibyte .shiftJis),
  ("cseuckr csksc56011987 euc-kr iso-ir-149 korean ks_c_5601-1987 ks_c_5601-1989 ksc5601 ksc_5601
    windows-949", .multibyte .eucKr),
  ("csiso2022kr hz-gb-2312 iso-2022-cn iso-2022-cn-ext iso-2022-kr replacement", .refused)]

/-- What may stand around a name. -/
def isPadding (c : Char) : Bool :=
  c.isWhitespace || c == '\x0c'

def ofName (name : String) : Charset :=
  let n := (dropEndWhile isPadding (name.toList.dropWhile isPadding)).map Char.toLower
  match names.find? fun entry => (entry.1.toList.splitOnP isPadding).contains n && n ≠ [] with
  | some (_, charset) => charset
  | none => .utf8

/-- Whether a value of a header is text: printable ASCII characters and tabs. -/
def isHeaderChar (c : Char) : Bool :=
  (' ' ≤ c && c < '\x7f') || c == '\t'

/-- The encoding that a content type names. -/
def ofContentType (contentType : Option String) : Charset :=
  let name := do
    let text ← contentType.filter fun (text : String) => text.toList.all isHeaderChar
    (← MediaType.parse? text).get? "charset"
  (name.map ofName).getD .utf8

end Charset

/-- The text of a body. -/
def readBody (contentType : Option String) (bytes : List UInt8) : String :=
  match bytes with
  | 0xEF :: 0xBB :: 0xBF :: rest => Charset.utf8.read rest
  | 0xFF :: 0xFE :: rest => (Charset.utf16 false).read rest
  | 0xFE :: 0xFF :: rest => (Charset.utf16 true).read rest
  | _ => (Charset.ofContentType contentType).read bytes

end Bistro
