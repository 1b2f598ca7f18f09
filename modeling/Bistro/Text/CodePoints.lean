import Bistro.Text.Hex

/-!
# Tables of code points

What is known of characters is written down in tables. A table is a text of words, each of them a
code point or a range, in hexadecimal: `41-5A` is all of the range, `14A-176/2` every second one.
Behind an equals sign stands what the table says of them, as numbers between plus signs.
-/

namespace Bistro

/-- Every `step`-th code point from `first` to `last`, and what a table says of them. -/
structure CodeRange where
  first : Nat
  last : Nat
  step : Nat
  values : List Nat
  deriving DecidableEq, Repr

namespace CodeRange

/-- What stands before and behind the first sign of a word. -/
def splitAt (sign : Char) (word : List Char) : List Char × List Char :=
  (word.takeWhile (· ≠ sign), (word.dropWhile (· ≠ sign)).drop 1)

/-- The number of a text, or `other` if there is no text. -/
def numberOr (other : Nat) (digits : List Char) : Nat :=
  if digits.isEmpty then other else Hex.number 16 digits

def ofWord (word : List Char) : CodeRange :=
  let (place, values) := splitAt '=' word
  let (ends, step) := splitAt '/' place
  let (first, last) := splitAt '-' ends
  let n := Hex.number 16 first
  ⟨n, numberOr n last, numberOr 1 step,
    if values.isEmpty then [] else (values.splitOn '+').map (Hex.number 16)⟩

def contains (r : CodeRange) (c : Char) : Bool :=
  r.first ≤ c.toNat && c.toNat ≤ r.last && (c.toNat - r.first) % r.step == 0

/-- What the table says of a character that is written as characters: those of the first one, moved
on by as much. -/
def charsAt (r : CodeRange) (c : Char) : List Char :=
  r.values.map fun v => Char.ofNat (v + (c.toNat - r.first))

end CodeRange

/-- Ranges, in the order of their first code points. -/
abbrev CodeTable := List CodeRange

namespace CodeTable

/-- Reads a table. -/
def ofText (text : String) : CodeTable :=
  ((text.toList.splitOnP Char.isWhitespace).filter (!·.isEmpty)).map CodeRange.ofWord

/-- The entry of a character, which stands before the ranges that begin behind it. -/
def find? : CodeTable → Char → Option CodeRange
  | [], _ => none
  | r :: rest, c =>
    if c.toNat < r.first then none
    else if r.contains c then some r
    else find? rest c

def contains (table : CodeTable) (c : Char) : Bool :=
  (table.find? c).isSome

end CodeTable

end Bistro
