import Bistro.Text.Unprintable

/-!
# Quoted text

Text as messages quote it: between double quotes, with the quote, the backslash and the usual
control characters behind a backslash, and every other unprintable character by its number.
-/

namespace Bistro

namespace Quoted

/-- The number of a character in lower case hexadecimal, between braces. -/
def byNumber (c : Char) : List Char :=
  ['\\', 'u', '\x7b'] ++ Nat.toDigits 16 c.toNat ++ ['\x7d']

def charText (c : Char) : List Char :=
  if c = '"' then ['\\', '"']
  else if c = '\\' then ['\\', '\\']
  else if c = '\n' then ['\\', 'n']
  else if c = '\r' then ['\\', 'r']
  else if c = '\t' then ['\\', 't']
  else if c = '\x00' then ['\\', '0']
  else if isUnprintable c then byNumber c
  else [c]

end Quoted

/-- The text between quotes. -/
def quoted (s : String) : String :=
  String.ofList ('"' :: s.toList.flatMap Quoted.charText ++ ['"'])

end Bistro
