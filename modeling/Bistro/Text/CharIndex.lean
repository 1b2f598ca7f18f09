import Bistro.Text.CodePoints
import Bistro.Text.Utf8

/-!
# Indexes of characters

Encodings that have several bytes for a character number their characters, and the number that
belongs to bytes is a pointer into an index. An index is written down as a text of words. A word is
a pointer in hexadecimal, an equals sign, and the characters from there on, which may go on in the
words behind it; or two pointers with a hyphen between them, and the first one of as many code
points, in hexadecimal.
-/

namespace Bistro

/-- The characters of the pointers in order. The replacement character stands at those that have
none. -/
abbrev CharIndex := Array Char

namespace CharIndex

/-- The index with characters from a pointer on, which is behind all that it has. -/
def extend (index : CharIndex) (pointer : Nat) (chars : List Char) : CharIndex :=
  index ++ Array.replicate (pointer - index.size) Utf8.replacement ++ chars

/-- The index with what a word says. -/
def add (index : CharIndex) (word : List Char) : CharIndex :=
  if word.contains '=' then
    let (place, chars) := CodeRange.splitAt '=' word
    let (first, last) := CodeRange.splitAt '-' place
    let pointer := Hex.number 16 first
    if chars.all Char.isAlphanum then
      let count := CodeRange.numberOr pointer last + 1 - pointer
      index.extend pointer ((List.range count).map fun i => Char.ofNat (Hex.number 16 chars + i))
    else index.extend pointer chars
  else index.extend index.size word

def ofText (text : String) : CharIndex :=
  ((text.toList.splitOnP Char.isWhitespace).filter (!·.isEmpty)).foldl add #[]

/-- The character of a pointer, if it has one. -/
def char? (index : CharIndex) (pointer : Nat) : Option Char :=
  index[pointer]?.filter (· != Utf8.replacement)

end CharIndex

end Bistro
