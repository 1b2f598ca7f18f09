import Bistro.Text.Big5Table
import Bistro.Text.Gb18030Table
import Bistro.Text.JapaneseTable
import Bistro.Text.KoreanTable

/-!
# Encodings with several bytes for a character

The East Asian encodings. A byte that cannot begin a character is replaced, and so are bytes that
begin one and do not go on as they have to; a last byte of these that is an ASCII character is then
read again. At the end of the bytes, what is left of a character is replaced as a whole.
-/

namespace Bistro

inductive Multibyte where
  | gb18030
  | big5
  | eucJp
  | iso2022Jp
  | shiftJis
  | eucKr
  deriving DecidableEq, Repr

namespace Multibyte

open Utf8 (replacement)

def within (first last b : UInt8) : Bool :=
  first ≤ b && b ≤ last

/-- How far a byte is behind another one. -/
def offset (b first : UInt8) : Nat :=
  b.toNat - first.toNat

/-- The pointer of two bytes, with so many characters to a first byte. The second bytes are those
from `40` on without `7F`. -/
def pointer (width : Nat) (a first b : UInt8) : Nat :=
  offset a first * width + offset b (if b < 0x7F then 0x40 else 0x41)

def isHigh (b : UInt8) : Bool :=
  within 0xA1 0xFE b

/-- The halfwidth katakana from a byte on. -/
def katakana (first b : UInt8) : Char :=
  Char.ofNat (0xFF61 + offset b first)

/-- What is replaced when the byte `b` does not go on with a character, and the bytes that are read
then. -/
def afterFault (b : UInt8) (rest : List UInt8) : List UInt8 :=
  if b < 0x80 then b :: rest else rest

theorem length_afterFault (b : UInt8) (rest : List UInt8) :
    (afterFault b rest).length ≤ rest.length + 1 := by
  unfold afterFault
  split <;> simp

/-- An encoding in which a character has one byte or two. -/
structure Pairs where
  single? : UInt8 → Option Char
  isLead : UInt8 → Bool
  pair? : UInt8 → UInt8 → Option (List Char)

def Pairs.read (e : Pairs) (bytes : List UInt8) : List Char :=
  match bytes with
  | [] => []
  | a :: rest =>
    match e.single? a with
    | some c => c :: e.read rest
    | none =>
      if e.isLead a then
        match rest with
        | [] => [replacement]
        | b :: rest' =>
          match e.pair? a b with
          | some chars => chars ++ e.read rest'
          | none => replacement :: e.read (afterFault b rest')
      else replacement :: e.read rest
termination_by bytes.length
decreasing_by
  all_goals
    have := length_afterFault
    grind

/-- The ASCII characters. -/
def ascii? (b : UInt8) : Option Char :=
  if b < 0x80 then some (Char.ofNat b.toNat) else none

def eucKrPairs : Pairs where
  single? := ascii?
  isLead := within 0x81 0xFE
  pair? a b := (CharIndex.korean.char? (offset a 0x81 * 190 + offset b 0x41)).bind fun c =>
    if within 0x41 0xFE b then some [c] else none

/-- The four characters of Big5 that are a letter and its accent. -/
def big5Accented : List (Nat × List Char) :=
  [(1133, ['\u00CA', '\u0304']), (1135, ['\u00CA', '\u030C']), (1164, ['\u00EA', '\u0304']),
    (1166, ['\u00EA', '\u030C'])]

def big5Pairs : Pairs where
  single? := ascii?
  isLead := within 0x81 0xFE
  pair? a b :=
    let p := offset a 0x81 * 157 + offset b (if b < 0x7F then 0x40 else 0x62)
    if within 0x40 0x7E b || within 0xA1 0xFE b then
      (big5Accented.lookup p).or ((CharIndex.big5.char? p).map fun c => [c])
    else none

/-- Between the rows of the standard there are those for characters of one's own. -/
def shiftJisPairs : Pairs where
  single? b :=
    if b ≤ 0x80 then some (Char.ofNat b.toNat)
    else if within 0xA1 0xDF b then some (katakana 0xA1 b)
    else none
  isLead b := within 0x81 0x9F b || within 0xE0 0xFC b
  pair? a b :=
    let p := pointer 188 a (if a < 0xA0 then 0x81 else 0xC1) b
    if within 0x40 0x7E b || within 0x80 0xFC b then
      if 8836 ≤ p ∧ p ≤ 10715 then some [Char.ofNat (0xE000 + (p - 8836))]
      else (CharIndex.jis0208.char? p).map fun c => [c]
    else none

/-- The character of four bytes. -/
def fourBytes? (a b c d : UInt8) : Option Char :=
  let p := ((offset a 0x81 * 10 + offset b 0x30) * 126 + offset c 0x81) * 10 + offset d 0x30
  if (39419 < p ∧ p < 189000) ∨ 1237575 < p then none
  else if p = 7457 then some '\uE7C7'
  else
    (CodeTable.gb18030.takeWhile (·.first ≤ p)).getLast?.bind fun r =>
      r.values.head?.map fun v => Char.ofNat (v + (p - r.first))

def isDigit (b : UInt8) : Bool :=
  within 0x30 0x39 b

/-- The character of two bytes. -/
def gbPair? (a b : UInt8) : Option Char :=
  if within 0x40 0x7E b || within 0x80 0xFE b then
    CharIndex.gb18030.char? (pointer 190 a 0x81 b)
  else none

/-- Bytes in fours are those whose second one is a digit. What does not go on is read again from the
second byte on. -/
def readGb18030 (bytes : List UInt8) : List Char :=
  match bytes with
  | [] => []
  | a :: rest =>
    if a < 0x80 then Char.ofNat a.toNat :: readGb18030 rest
    else if a = 0x80 then '\u20AC' :: readGb18030 rest
    else if a = 0xFF then replacement :: readGb18030 rest
    else
      match rest with
      | [] => [replacement]
      | b :: rest' =>
        if isDigit b then
          match rest' with
          | [] => [replacement]
          | [c] =>
            if within 0x81 0xFE c then [replacement]
            else replacement :: readGb18030 [b, c]
          | c :: d :: rest'' =>
            if within 0x81 0xFE c && isDigit d then
              (fourBytes? a b c d).getD replacement :: readGb18030 rest''
            else replacement :: readGb18030 (b :: c :: d :: rest'')
        else
          match gbPair? a b with
          | some c => c :: readGb18030 rest'
          | none => replacement :: readGb18030 (afterFault b rest')
termination_by bytes.length
decreasing_by
  all_goals
    have := length_afterFault
    grind

/-- Two bytes from `A1` on, in one of the indexes. -/
def jisPair? (index : CharIndex) (a b : UInt8) : Option Char :=
  if isHigh a && isHigh b then index.char? (offset a 0xA1 * 94 + offset b 0xA1) else none

/-- A first byte `8E` stands in front of katakana, and `8F` in front of the two bytes of a further
character. -/
def readEucJp (bytes : List UInt8) : List Char :=
  match bytes with
  | [] => []
  | [a] => [if a < 0x80 then Char.ofNat a.toNat else replacement]
  | a :: b :: rest =>
    if a < 0x80 then Char.ofNat a.toNat :: readEucJp (b :: rest)
    else if a = 0x8E && within 0xA1 0xDF b then katakana 0xA1 b :: readEucJp rest
    else if a = 0x8F && isHigh b then
      match rest with
      | [] => [replacement]
      | c :: rest' =>
        match jisPair? CharIndex.jis0212 b c with
        | some char => char :: readEucJp rest'
        | none => replacement :: readEucJp (afterFault c rest')
    else if a = 0x8E || a = 0x8F || isHigh a then
      match jisPair? CharIndex.jis0208 a b with
      | some char => char :: readEucJp rest
      | none => replacement :: readEucJp (afterFault b rest)
    else replacement :: readEucJp (b :: rest)
termination_by bytes.length
decreasing_by
  all_goals
    have := length_afterFault
    grind

/-- The characters that bytes are read as, until another escape sequence. -/
inductive JisMode where
  | ascii
  | roman
  | katakana
  | wide
  deriving DecidableEq, Repr

/-- The mode that the two bytes behind an escape character choose. -/
def JisMode.ofEscape? : UInt8 → UInt8 → Option JisMode
  | 0x28, 0x42 => some .ascii
  | 0x28, 0x4A => some .roman
  | 0x28, 0x49 => some .katakana
  | 0x24, 0x40 | 0x24, 0x42 => some .wide
  | _, _ => none

/-- The character of a byte in a mode in which it has one. -/
def JisMode.char? (mode : JisMode) (b : UInt8) : Option Char :=
  match mode with
  | .katakana => if within 0x21 0x5F b then some (Multibyte.katakana 0x21 b) else none
  | .wide => none
  | .ascii | .roman =>
    if 0x80 ≤ b ∨ b = 0x0E ∨ b = 0x0F then none
    else if mode = .roman ∧ b = 0x5C then some '\u00A5'
    else if mode = .roman ∧ b = 0x7E then some '\u203E'
    else some (Char.ofNat b.toNat)

/-- Escape sequences change the mode. One that stands directly behind another one is replaced. -/
def readIso2022Jp (mode : JisMode) (escaped : Bool) (bytes : List UInt8) : List Char :=
  match bytes with
  | [] => []
  | a :: rest =>
    if a = 0x1B then
      match (rest.head?.bind fun b => (rest.drop 1).head?.bind (JisMode.ofEscape? b)) with
      | some mode' =>
        (if escaped then [replacement] else []) ++ readIso2022Jp mode' true (rest.drop 2)
      | none => replacement :: readIso2022Jp mode false rest
    else if mode = .wide && within 0x21 0x7E a then
      match rest with
      | [] => [replacement]
      | b :: rest' =>
        if b = 0x1B then replacement :: readIso2022Jp mode false (b :: rest')
        else
          (jisPair? CharIndex.jis0208 (a + 0x80) (b + 0x80)).getD replacement ::
            readIso2022Jp mode false rest'
    else (mode.char? a).getD replacement :: readIso2022Jp mode false rest
termination_by bytes.length

/-- Reads bytes. -/
def read (e : Multibyte) (bytes : List UInt8) : List Char :=
  match e with
  | .gb18030 => readGb18030 bytes
  | .big5 => big5Pairs.read bytes
  | .eucJp => readEucJp bytes
  | .iso2022Jp => readIso2022Jp .ascii false bytes
  | .shiftJis => shiftJisPairs.read bytes
  | .eucKr => eucKrPairs.read bytes

theorem read_nil (e : Multibyte) : e.read [] = [] := by
  cases e <;> simp [read, Pairs.read, readGb18030, readEucJp, readIso2022Jp]

end Multibyte

end Bistro
