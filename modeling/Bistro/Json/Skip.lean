import Bistro.Json.Reader

/-!
# Skipping JSON values

The value of a member that nobody asks for is passed over. It has to be well formed, but it is not
read: it may be nested without limit, its numbers may be of any size, and the escapes of its texts
need not be characters.
-/

namespace Bistro

namespace Json

def skipExponentDigits : List Char → Except Fault (List Char)
  | [] => .error (.on .invalidNumber [])
  | c :: rest =>
    if Decimal.isDigit c then .ok (rest.dropWhile Decimal.isDigit)
    else .error (.on .invalidNumber (c :: rest))

def skipExponent : List Char → Except Fault (List Char)
  | '+' :: rest => skipExponentDigits rest
  | '-' :: rest => skipExponentDigits rest
  | s => skipExponentDigits s

def skipScale : List Char → Except Fault (List Char)
  | 'e' :: rest => skipExponent rest
  | 'E' :: rest => skipExponent rest
  | s => .ok s

def skipFraction (s : List Char) : Except Fault (List Char) :=
  if startsWithDigit s then skipScale (s.dropWhile Decimal.isDigit)
  else .error (.on .invalidNumber s)

def skipTail : List Char → Except Fault (List Char)
  | '.' :: rest => skipFraction rest
  | s => skipScale s

/-- Skips a number without its sign. -/
def skipUnsigned : List Char → Except Fault (List Char)
  | [] => .error (.on .invalidNumber [])
  | '0' :: rest =>
    if startsWithDigit rest then .error (.on .invalidNumber rest) else skipTail rest
  | c :: rest =>
    if Decimal.isDigit c then skipTail (rest.dropWhile Decimal.isDigit)
    else .error (.on .invalidNumber (c :: rest))

def skipNumber : List Char → Except Fault (List Char)
  | '-' :: rest => skipUnsigned rest
  | s => skipUnsigned s

/-- Skips a text behind its opening quote. -/
def skipText : List Char → Except Fault (List Char)
  | [] => .error (.before .endInText [])
  | '"' :: rest => .ok rest
  | '\\' :: 'u' :: a :: b :: c :: d :: rest =>
    match hexNumber a b c d with
    | none => .error (hexFault (a :: b :: c :: d :: rest))
    | some _ => skipText rest
  | '\\' :: 'u' :: rest => .error (hexFault rest)
  | ['\\'] => .error (.before .endInText [])
  | '\\' :: c :: rest =>
    match escapedChar c with
    | some _ => skipText rest
    | none => .error (.on .invalidEscape (c :: rest))
  | c :: rest =>
    if c.toNat < 0x20 then .error (.before .controlCharacter (c :: rest)) else skipText rest

/-- What is open around the place in the text, the innermost first. -/
inductive Bracket where
  | list
  | object
  deriving DecidableEq, Repr

/-- A scalar is skipped to its end, a list or object is only opened. -/
def skipHead (s : List Char) : Except Fault (Option Bracket × List Char) :=
  match skipSpaces s with
  | [] => .error (.on .endInValue [])
  | 'n' :: rest => (readWord ['u', 'l', 'l'] rest).map fun r => (none, r)
  | 't' :: rest => (readWord ['r', 'u', 'e'] rest).map fun r => (none, r)
  | 'f' :: rest => (readWord ['a', 'l', 's', 'e'] rest).map fun r => (none, r)
  | '"' :: rest => (skipText rest).map fun r => (none, r)
  | '[' :: rest => .ok (some .list, rest)
  | '\x7b' :: rest => .ok (some .object, rest)
  | c :: rest =>
    if c = '-' ∨ Decimal.isDigit c then (skipNumber (c :: rest)).map fun r => (none, r)
    else .error (.on .expectedValue (c :: rest))

/-- Behind a value: closes what is closed there, up to the next comma or the end of it all. -/
def skipClosings : List Bracket → List Char → Except Fault (List Bracket × List Char)
  | [], s => .ok ([], s)
  | b :: rest, s =>
    match b, skipSpaces s with
    | .list, [] => .error (.on .endInList [])
    | .object, [] => .error (.on .endInObject [])
    | _, ',' :: r => .ok (b :: rest, r)
    | .list, ']' :: r => skipClosings rest r
    | .object, '\x7d' :: r => skipClosings rest r
    | .list, r => .error (.on .expectedListComma r)
    | .object, r => .error (.on .expectedObjectComma r)

/-- Behind an opening bracket: closes it if nothing is in it. -/
def skipOpening (b : Bracket) (outer : List Bracket) (s : List Char) :
    Except Fault (List Bracket × List Char) :=
  match b, skipSpaces s with
  | .list, [] => .error (.on .endInList [])
  | .object, [] => .error (.on .endInObject [])
  | .list, ']' :: r => skipClosings outer r
  | .object, '\x7d' :: r => skipClosings outer r
  | _, r => .ok (b :: outer, r)

/-- The name and the colon in front of a value within an object. -/
def skipName : Bracket → List Char → Except Fault (List Char)
  | .list, s => .ok s
  | .object, s =>
    match skipSpaces s with
    | [] => .error (.on .endInObject [])
    | '"' :: rest => (skipText rest).bind readColon
    | r => .error (.on .keyNotText r)

/-- Skips the value in front and all that is open around it. Each round takes at least one
character, so that the length of the text suffices for `fuel`. -/
def skipOpen : (fuel : Nat) → List Bracket → List Char → Except Fault (List Char)
  | 0, _, s => .error (.on .endInValue s)
  | fuel + 1, around, s =>
    match skipHead s with
    | .error e => .error e
    | .ok (head, rest) =>
      let next := match head with
        | none => skipClosings around rest
        | some b => skipOpening b around rest
      match next with
      | .error e => .error e
      | .ok ([], r) => .ok r
      | .ok (b :: outer, r) =>
        match skipName b r with
        | .error e => .error e
        | .ok r' => skipOpen fuel (b :: outer) r'

/-- Skips a value. -/
def skipValue (s : List Char) : Except Fault (List Char) :=
  skipOpen (s.length + 1) [] s

end Json

end Bistro
