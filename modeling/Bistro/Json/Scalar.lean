import Bistro.Json.Reader

/-!
# Scalars of one type

Where a text, a truth value or an integer is wanted, anything else is read far enough to name it in
the fault.
-/

namespace Bistro

namespace Json

/-- The fault of a value that is not of the expected type. Scalars are read, so that the fault lies
behind them, lists and objects are not. -/
def wrongTypeFault (expected : String) (s : List Char) : Fault :=
  let scalar (r : Except Fault (Found × List Char)) : Fault :=
    match r with
    | .error e => e
    | .ok (found, rest) => .before (.wrongType found expected) rest
  match s with
  | [] => .on .endInValue []
  | 'n' :: rest => scalar ((readWord ['u', 'l', 'l'] rest).map fun r => (.null, r))
  | 't' :: rest => scalar ((readWord ['r', 'u', 'e'] rest).map fun r => (.boolean true, r))
  | 'f' :: rest => scalar ((readWord ['a', 'l', 's', 'e'] rest).map fun r => (.boolean false, r))
  | '"' :: rest => scalar ((readText rest).map fun x => (.text x.1, x.2))
  | '[' :: _ => .before (.wrongType .list expected) s
  | '\x7b' :: _ => .before (.wrongType .object expected) s
  | c :: _ =>
    if c = '-' ∨ Decimal.isDigit c then scalar ((readNumber s).map fun x => (.number x.1, x.2))
    else .on .expectedValue s

def readTextValue : Reader String := fun s =>
  match skipSpaces s with
  | '"' :: rest => readText rest
  | r => .error (wrongTypeFault "a string" r)

def readBoolean : Reader Bool := fun s =>
  match skipSpaces s with
  | 't' :: rest => (readWord ['r', 'u', 'e'] rest).map fun r => (true, r)
  | 'f' :: rest => (readWord ['a', 'l', 's', 'e'] rest).map fun r => (false, r)
  | r => .error (wrongTypeFault "a boolean" r)

/-- Reads an integer between `lo` and `hi`; `type` names the range. -/
def readInteger (lo hi : Int) (type : String) : Reader Int := fun s =>
  let r := skipSpaces s
  let number := match r with
    | c :: _ => c == '-' || Decimal.isDigit c
    | [] => false
  if number then
    match readNumber r with
    | .error e => .error e
    | .ok (.integer z, rest) =>
      if lo ≤ z ∧ z ≤ hi then .ok (z, rest)
      else .error (.before (.wrongValue (.number (.integer z)) type) rest)
    | .ok (.double d, rest) => .error (.before (.wrongType (.number (.double d)) type) rest)
  else .error (wrongTypeFault type r)

def readInt32Value : Reader Int32 := fun s =>
  (readInteger (-2147483648) 2147483647 "i32" s).map fun x => (Int32.ofInt x.1, x.2)

def readUInt32Value : Reader UInt32 := fun s =>
  (readInteger 0 4294967295 "u32" s).map fun x => (UInt32.ofNat x.1.toNat, x.2)

end Json

end Bistro
