/-!
# Decimal integers

Integers are written with as few digits as possible and read with an optional sign, any number of
leading zeros and a range that they have to stay in. Reading goes from left to right, and the first
fault decides: a number that has left its range is not searched for strange characters.
-/

namespace Bistro

namespace Decimal

/-- The digits of a number, without leading zeros. -/
def digits (n : Nat) : List Char :=
  Nat.toDigits 10 n

/-- The digits of an integer, with a minus sign in front of a negative one. -/
def chars : Int → List Char
  | .ofNat n => digits n
  | .negSucc n => '-' :: digits (n + 1)

def write (z : Int) : String :=
  String.ofList (chars z)

/-- Why a text is not an integer of the wanted range. -/
inductive Fault where
  | empty
  | invalidDigit
  | tooLarge
  | tooSmall
  deriving DecidableEq, Repr

def Fault.message : Fault → String
  | .empty => "cannot parse integer from empty string"
  | .invalidDigit => "invalid digit found in string"
  | .tooLarge => "number too large to fit in target type"
  | .tooSmall => "number too small to fit in target type"

def isDigit (c : Char) : Bool :=
  '0' ≤ c && c ≤ '9'

def digitValue (c : Char) : Nat :=
  c.toNat - '0'.toNat

/-- Reads digits behind those that gave `n`, up to `limit`; `beyond` is the fault of leaving it. -/
def readDigits (limit : Nat) (beyond : Fault) (n : Nat) : List Char → Except Fault Nat
  | [] => .ok n
  | c :: rest =>
    if isDigit c then
      let m := n * 10 + digitValue c
      if m ≤ limit then readDigits limit beyond m rest else .error beyond
    else .error .invalidDigit

/-- Reads an integer between `lo` and `hi`. A minus sign is a strange character where `lo` leaves no
room for negative numbers. -/
def read (lo hi : Int) : List Char → Except Fault Int
  | [] => .error .empty
  | ['+'] => .error .invalidDigit
  | ['-'] => .error .invalidDigit
  | '+' :: rest => (readDigits hi.toNat .tooLarge 0 rest).map Int.ofNat
  | '-' :: rest =>
    if lo < 0 then (readDigits (-lo).toNat .tooSmall 0 rest).map fun n => -Int.ofNat n
    else .error .invalidDigit
  | s => (readDigits hi.toNat .tooLarge 0 s).map Int.ofNat

end Decimal

/-- Reads a 32-bit signed integer. -/
def readInt32 (s : List Char) : Except Decimal.Fault Int32 :=
  (Decimal.read (-2147483648) 2147483647 s).map Int32.ofInt

/-- Reads a 32-bit unsigned integer. -/
def readUInt32 (s : List Char) : Except Decimal.Fault UInt32 :=
  (Decimal.read 0 4294967295 s).map fun z => UInt32.ofNat z.toNat

end Bistro
