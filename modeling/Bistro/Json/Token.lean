import Bistro.Json.Fault
import Bistro.Text.Hex

/-!
# The tokens of JSON

Words, numbers, texts, and the signs between the parts of lists and objects. A reader takes what is
left of the text and gives back what it read and what is left then.
-/

namespace Bistro

namespace Json

/-- What reads the beginning of a text. -/
abbrev Reader (α : Type) := List Char → Except Fault (α × List Char)

def isSpace (c : Char) : Bool :=
  c == ' ' || c == '\n' || c == '\t' || c == '\r'

def skipSpaces (s : List Char) : List Char :=
  s.dropWhile isSpace

/-- Reads the rest of a word. -/
def readWord : List Char → List Char → Except Fault (List Char)
  | [], s => .ok s
  | _ :: _, [] => .error (.before .endInValue [])
  | w :: ws, c :: s => if c = w then readWord ws s else .error (.on .expectedWord (c :: s))

def startsWithDigit : List Char → Bool
  | c :: _ => Decimal.isDigit c
  | [] => false

/-- Reads digits behind those that gave `n`, as long as the number stays within `limit`: the number,
how many digits were read, and what is left. -/
def gatherDigits (limit : Nat) (n count : Nat) : List Char → Nat × Nat × List Char
  | [] => (n, count, [])
  | c :: rest =>
    let m := n * 10 + Decimal.digitValue c
    if Decimal.isDigit c && m ≤ limit then gatherDigits limit m (count + 1) rest
    else (n, count, c :: rest)

def maxWord : Nat := 18446744073709551615

/-- The double `± n * 10 ^ e`, at the end of a number. -/
def finishDouble (negative : Bool) (n : Nat) (e : Int) : Reader Number := fun s =>
  match Magnitude.ofDecimal n e with
  | some m => .ok (.double ⟨negative, m⟩, s)
  | none => .error (.before .numberOutOfRange s)

/-- The digits of an exponent and the end of the number. An exponent that 31 bits do not hold leaves
zero, or a number that is out of range. -/
def readExponentDigits (negative : Bool) (n : Nat) (e : Int) (negativeExponent : Bool) :
    Reader Number := fun s =>
  match s with
  | [] => .error (.before .endInValue [])
  | c :: _ =>
    if Decimal.isDigit c then
      match gatherDigits 2147483647 0 0 s with
      | (x, _, rest) =>
        if startsWithDigit rest then
          if n ≠ 0 ∧ ¬ negativeExponent then .error (.before .numberOutOfRange (rest.drop 1))
          else .ok (.double ⟨negative, .zero⟩, rest.dropWhile Decimal.isDigit)
        else finishDouble negative n (if negativeExponent then e - x else e + x) rest
    else .error (.on .invalidNumber s)

/-- What follows the letter of an exponent. -/
def readExponent (negative : Bool) (n : Nat) (e : Int) : Reader Number
  | '+' :: rest => readExponentDigits negative n e false rest
  | '-' :: rest => readExponentDigits negative n e true rest
  | s => readExponentDigits negative n e false s

/-- An exponent, if one follows, and the end of the number. -/
def readScale (negative : Bool) (n : Nat) (e : Int) : Reader Number
  | 'e' :: rest => readExponent negative n e rest
  | 'E' :: rest => readExponent negative n e rest
  | s => finishDouble negative n e s

/-- What follows the point. Digits that the significand has no room for are dropped. -/
def readFraction (negative : Bool) (n : Nat) (e : Int) : Reader Number := fun s =>
  match gatherDigits maxWord n 0 s with
  | (m, count, rest) =>
    if startsWithDigit rest then
      readScale negative m (e - count) (rest.dropWhile Decimal.isDigit)
    else if count = 0 then
      .error (.on (if rest.isEmpty then .endInValue else .invalidNumber) rest)
    else readScale negative m (e - count) rest

/-- An integer without fraction and exponent. Zero keeps its sign only as a double. -/
def wholeNumber (negative : Bool) (n : Nat) : Option Number :=
  if negative then
    if n = 0 then some (.double ⟨true, .zero⟩)
    else if n ≤ 9223372036854775808 then some (.integer (-n))
    else (Magnitude.ofDecimal n 0).map fun m => .double ⟨true, m⟩
  else some (.integer n)

/-- What follows the digits of the integer part. -/
def readTail (negative : Bool) (n : Nat) : Reader Number
  | '.' :: rest => readFraction negative n 0 rest
  | 'e' :: rest => readExponent negative n 0 rest
  | 'E' :: rest => readExponent negative n 0 rest
  | s =>
    match wholeNumber negative n with
    | some x => .ok (x, s)
    | none => .error (.before .numberOutOfRange s)

/-- What follows an integer part that 64 bits do not hold; `e` digits of it were dropped. -/
def readLongTail (negative : Bool) (n : Nat) (e : Int) : Reader Number
  | '.' :: rest => readFraction negative n e rest
  | s => readScale negative n e s

/-- A number without its sign. -/
def readUnsigned (negative : Bool) : Reader Number
  | [] => .error (.before .endInValue [])
  | '0' :: rest =>
    if startsWithDigit rest then .error (.on .invalidNumber rest) else readTail negative 0 rest
  | c :: s =>
    if Decimal.isDigit c then
      match gatherDigits maxWord 0 0 (c :: s) with
      | (n, _, rest) =>
        if startsWithDigit rest then
          readLongTail negative n (rest.takeWhile Decimal.isDigit).length
            (rest.dropWhile Decimal.isDigit)
        else readTail negative n rest
    else .error (.on .invalidNumber (c :: s))

def readNumber : Reader Number
  | '-' :: rest => readUnsigned true rest
  | s => readUnsigned false s

/-- The number of four digits. -/
def hexNumber (a b c d : Char) : Option Nat := do
  let w ← Hex.value? a
  let x ← Hex.value? b
  let y ← Hex.value? c
  let z ← Hex.value? d
  return ((w * 16 + x) * 16 + y) * 16 + z

/-- The fault of what stands where four hexadecimal digits should: it is found behind four bytes, or
at the end of a text that has fewer. -/
def hexFault (rest : List Char) : Fault :=
  if 4 ≤ byteSize rest then ⟨.invalidEscape, byteSize rest - 4⟩ else ⟨.endInText, 0⟩

/-- The fault of what stands where the second half of a pair should. -/
def pairFault : List Char → Fault
  | [] => ⟨.endInText, 0⟩
  | ['\\'] => ⟨.endInText, 0⟩
  | '\\' :: 'u' :: rest => hexFault rest
  | '\\' :: rest => .on .unfinishedEscape rest
  | rest => .on .unfinishedEscape rest

/-- The character that an escape of one letter stands for. -/
def escapedChar (c : Char) : Option Char :=
  if c = '"' ∨ c = '\\' ∨ c = '/' then some c
  else if c = 'b' then some '\x08'
  else if c = 'f' then some '\x0c'
  else if c = 'n' then some '\n'
  else if c = 'r' then some '\r'
  else if c = 't' then some '\t'
  else none

def isFirstHalf (n : Nat) : Bool := 0xD800 ≤ n && n ≤ 0xDBFF

def isSecondHalf (n : Nat) : Bool := 0xDC00 ≤ n && n ≤ 0xDFFF

/-- The character of a pair of halves. -/
def pairChar (n m : Nat) : Char :=
  Char.ofNat (0x10000 + (n - 0xD800) * 0x400 + (m - 0xDC00))

/-- Reads a text behind its opening quote; `done` holds the characters read, the last one first. -/
def readTextBody (done : List Char) : Reader String
  | [] => .error (.before .endInText [])
  | '"' :: rest => .ok (String.ofList done.reverse, rest)
  | '\\' :: 'u' :: a :: b :: c :: d :: rest =>
    match hexNumber a b c d with
    | none => .error (hexFault (a :: b :: c :: d :: rest))
    | some n =>
      if isSecondHalf n then .error (.before .loneSurrogate rest)
      else if isFirstHalf n then
        match rest with
        | '\\' :: 'u' :: e :: f :: g :: h :: rest' =>
          match hexNumber e f g h with
          | none => .error (hexFault (e :: f :: g :: h :: rest'))
          | some m =>
            if isSecondHalf m then readTextBody (pairChar n m :: done) rest'
            else .error (.before .loneSurrogate rest')
        | _ => .error (pairFault rest)
      else readTextBody (Char.ofNat n :: done) rest
  | '\\' :: 'u' :: rest => .error (hexFault rest)
  | ['\\'] => .error (.before .endInText [])
  | '\\' :: c :: rest =>
    match escapedChar c with
    | some x => readTextBody (x :: done) rest
    | none => .error (.on .invalidEscape (c :: rest))
  | c :: rest =>
    if c.toNat < 0x20 then .error (.before .controlCharacter rest)
    else readTextBody (c :: done) rest

/-- Reads a text behind its opening quote. -/
def readText : Reader String :=
  readTextBody []

/-- Goes to the next item of a list, `first` being whether none was read yet; at the end of the list
there is none. -/
def nextItem (first : Bool) (s : List Char) : Except Fault (Option (List Char)) :=
  match skipSpaces s with
  | [] => .error (.on .endInList [])
  | ']' :: _ => .ok none
  | c :: rest =>
    if first then .ok (some (c :: rest))
    else if c = ',' then
      match skipSpaces rest with
      | [] => .error (.on .endInValue [])
      | ']' :: r => .error (.on .trailingComma (']' :: r))
      | r => .ok (some r)
    else .error (.on .expectedListComma (c :: rest))

/-- Goes to the next name of an object, behind its opening quote. -/
def nextName (first : Bool) (s : List Char) : Except Fault (Option (List Char)) :=
  match skipSpaces s with
  | [] => .error (.on .endInObject [])
  | '}' :: _ => .ok none
  | c :: rest =>
    if first then
      if c = '"' then .ok (some rest) else .error (.on .keyNotText (c :: rest))
    else if c = ',' then
      match skipSpaces rest with
      | [] => .error (.on .endInValue [])
      | '"' :: r => .ok (some r)
      | '}' :: r => .error (.on .trailingComma ('}' :: r))
      | r => .error (.on .keyNotText r)
    else .error (.on .expectedObjectComma (c :: rest))

/-- The end of a list. -/
def closeList (s : List Char) : Except Fault (List Char) :=
  match skipSpaces s with
  | [] => .error (.on .endInList [])
  | ']' :: rest => .ok rest
  | ',' :: rest =>
    match skipSpaces rest with
    | ']' :: r => .error (.on .trailingComma (']' :: r))
    | r => .error (.on .trailingCharacters r)
  | rest => .error (.on .trailingCharacters rest)

/-- The end of an object. -/
def closeObject (s : List Char) : Except Fault (List Char) :=
  match skipSpaces s with
  | [] => .error (.on .endInObject [])
  | '}' :: rest => .ok rest
  | ',' :: rest => .error (.on .trailingComma (',' :: rest))
  | rest => .error (.on .trailingCharacters rest)

/-- The colon between a name and its value. -/
def readColon (s : List Char) : Except Fault (List Char) :=
  match skipSpaces s with
  | [] => .error (.on .endInObject [])
  | ':' :: rest => .ok rest
  | rest => .error (.on .expectedColon rest)

/-- A fault of a whole list or object lies behind its closing sign, if that is what follows. -/
def Fault.behind (close : Char) (cause : Cause) (s : List Char) : Fault :=
  match skipSpaces s with
  | c :: rest => .before cause (if c = close then rest else c :: rest)
  | [] => .before cause []

end Json

end Bistro
