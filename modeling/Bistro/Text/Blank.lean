/-!
# Blank characters

Text is trimmed of the characters that carry the Unicode property `White_Space`, and of no others:
neither the zero width space nor the information separators count.
-/

namespace Bistro

/-- The characters with the Unicode property `White_Space`. -/
def isBlank (c : Char) : Bool :=
  let n := c.toNat
  (0x09 ≤ n && n ≤ 0x0D) || n == 0x20 || n == 0x85 || n == 0xA0 || n == 0x1680 ||
    (0x2000 ≤ n && n ≤ 0x200A) || n == 0x2028 || n == 0x2029 || n == 0x202F || n == 0x205F ||
    n == 0x3000

/-- Drops what satisfies `p` from the end. -/
def dropEndWhile (p : α → Bool) (s : List α) : List α :=
  (s.reverse.dropWhile p).reverse

/-- Drops the blanks at both ends. -/
def trimChars (s : List Char) : List Char :=
  dropEndWhile isBlank (s.dropWhile isBlank)

/-- The text without the blanks at its ends. -/
def trim (s : String) : String :=
  String.ofList (trimChars s.toList)

end Bistro
