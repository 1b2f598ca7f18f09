import Bistro.Text.Hex
import Bistro.Text.Utf8

/-!
# Percent encoding

Bytes that may not stand in a part of an address are written as a percent sign and two hexadecimal
digits. Characters beyond ASCII are always written so, byte by byte; which others are depends on the
part.
-/

namespace Bistro

namespace Percent

/-- A digit of a byte, in upper case. -/
def hexDigit (n : Nat) : Char :=
  (Nat.digitChar n).toUpper

def hexValue (b : UInt8) : Option Nat :=
  Hex.value? (Char.ofNat b.toNat)

/-- A byte as a percent sign and two digits. -/
def encodeByte (b : UInt8) : List Char :=
  ['%', hexDigit (b.toNat / 16), hexDigit (b.toNat % 16)]

def encodeChar (reserved : Char → Bool) (c : Char) : List Char :=
  if 0x80 ≤ c.toNat || reserved c then (utf8 (String.singleton c)).flatMap encodeByte else [c]

/-- Encodes the characters beyond ASCII and those that are reserved. -/
def encode (reserved : Char → Bool) (s : List Char) : List Char :=
  s.flatMap (encodeChar reserved)

/-- What follows a percent sign: two digits make a byte, anything else stands for itself. -/
def decodePiece : List UInt8 → List UInt8
  | a :: b :: rest =>
    match hexValue a, hexValue b with
    | some x, some y => UInt8.ofNat (x * 16 + y) :: rest
    | _, _ => 0x25 :: a :: b :: rest
  | piece => 0x25 :: piece

/-- Decodes all percent signs that are followed by two digits. -/
def decode (bytes : List UInt8) : List UInt8 :=
  match bytes.splitOn 0x25 with
  | [] => []
  | first :: pieces => first ++ pieces.flatMap decodePiece

def isControl (c : Char) : Bool :=
  c.toNat < 0x20 || c.toNat == 0x7F

def inFragment (c : Char) : Bool :=
  isControl c || [' ', '"', '<', '>', '`'].contains c

def inPath (c : Char) : Bool :=
  inFragment c || ['#', '?', '\x7b', '\x7d'].contains c

def inUser (c : Char) : Bool :=
  inPath c || ['/', ':', ';', '=', '@', '[', '\\', ']', '^', '|'].contains c

def inQuery (c : Char) : Bool :=
  isControl c || [' ', '"', '#', '<', '>'].contains c

def inSpecialQuery (c : Char) : Bool :=
  inQuery c || c == '\''

end Percent

end Bistro
