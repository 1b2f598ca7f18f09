import Bistro.Json.Basic
import Bistro.Number.Shortest
import Bistro.Text.Decimal

/-!
# Compact JSON

Values are written without any blank. Text escapes the quote, the backslash and the control
characters below the space; doubles are written with the fewest digits that are read back as them.
-/

namespace Bistro

/-- Positional from `10 ^ -5` to below `10 ^ 16`, always with a point; elsewhere one digit before
the point and an exponent with its sign. -/
def ShortDecimal.chars (d : ShortDecimal) : List Char :=
  let ds := Decimal.digits d.digits
  let n := ds.length
  let point : Int := n + d.exponent
  if d.digits = 0 then ['0', '.', '0']
  else if 0 ≤ d.exponent ∧ point ≤ 16 then ds ++ List.replicate d.exponent.toNat '0' ++ ['.', '0']
  else if 0 < point ∧ point ≤ 16 then ds.take point.toNat ++ '.' :: ds.drop point.toNat
  else if -5 < point ∧ point ≤ 0 then '0' :: '.' :: List.replicate (-point).toNat '0' ++ ds
  else
    let e := point - 1
    let mantissa := if n = 1 then ds else ds.take 1 ++ '.' :: ds.drop 1
    mantissa ++ 'e' :: (if 0 ≤ e then '+' :: Decimal.chars e else Decimal.chars e)

/-- Whole numbers may be found on a coarser grid than their last digit, others end in a digit that
is not zero; either way the digits are taken without trailing zeros. -/
def ShortDecimal.strip (d : ShortDecimal) : ShortDecimal :=
  let ds := Nat.toDigits 10 d.digits
  let zeros := (ds.reverse.takeWhile (· == '0')).length
  if d.digits = 0 then d else ⟨d.digits / Nat.pow 10 zeros, d.exponent + zeros⟩

def Binary64.chars (d : Binary64) : List Char :=
  (if d.negative then ['-'] else []) ++ d.magnitude.shortest.strip.chars

def Number.chars : Number → List Char
  | .integer z => Decimal.chars z
  | .double d => d.chars

namespace Json

/-- A character within a text. -/
def charText (c : Char) : List Char :=
  if c = '"' then ['\\', '"']
  else if c = '\\' then ['\\', '\\']
  else if c = '\n' then ['\\', 'n']
  else if c = '\r' then ['\\', 'r']
  else if c = '\t' then ['\\', 't']
  else if c = '\x08' then ['\\', 'b']
  else if c = '\x0c' then ['\\', 'f']
  else if c.toNat < 0x20 then
    ['\\', 'u', '0', '0', Nat.digitChar (c.toNat / 16), Nat.digitChar (c.toNat % 16)]
  else [c]

def textChars (s : String) : List Char :=
  '"' :: s.toList.flatMap charText ++ ['"']

mutual

/-- The value as compact text. -/
def chars : Json → List Char
  | .null => ['n', 'u', 'l', 'l']
  | .boolean true => ['t', 'r', 'u', 'e']
  | .boolean false => ['f', 'a', 'l', 's', 'e']
  | .number n => n.chars
  | .text s => textChars s
  | .list items => '[' :: itemChars items ++ [']']
  | .object members => '\x7b' :: memberChars members ++ ['\x7d']

def itemChars : List Json → List Char
  | [] => []
  | [v] => v.chars
  | v :: rest => v.chars ++ ',' :: itemChars rest

def memberChars : List (String × Json) → List Char
  | [] => []
  | [(name, v)] => textChars name ++ ':' :: v.chars
  | (name, v) :: rest => textChars name ++ ':' :: v.chars ++ ',' :: memberChars rest

end

def write (v : Json) : String :=
  String.ofList v.chars

end Json

end Bistro
