import Bistro.Url.Percent

/-!
# Form encoding

Pairs of texts as queries and posted forms carry them: `name=value`, joined by `&`. A space is
written as a plus sign, and every byte but letters, digits and `*-._` in percent encoding. Empty
pieces between two `&` are passed over, and a piece without `=` is a name with an empty value.
-/

namespace Bistro

namespace Urlencoded

/-- The bytes that stand for themselves. -/
def isPlain (b : UInt8) : Bool :=
  let n := b.toNat
  (0x30 ≤ n && n ≤ 0x39) || (0x41 ≤ n && n ≤ 0x5A) || (0x61 ≤ n && n ≤ 0x7A) ||
    n == 0x2A || n == 0x2D || n == 0x2E || n == 0x5F

def encodeByte (b : UInt8) : List Char :=
  if b = 0x20 then ['+']
  else if isPlain b then [Char.ofNat b.toNat]
  else Percent.encodeByte b

/-- A name or a value. -/
def encodeText (s : String) : List Char :=
  (utf8 s).flatMap encodeByte

def encodePair (p : String × String) : List Char :=
  encodeText p.1 ++ '=' :: encodeText p.2

/-- The pairs in their order. -/
def encode (pairs : List (String × String)) : List Char :=
  List.intercalate ['&'] (pairs.map encodePair)

/-- A plus sign stands for a space. -/
def plusToSpace (b : UInt8) : UInt8 :=
  if b = 0x2B then 0x20 else b

def decodeText (bytes : List UInt8) : String :=
  Utf8.read (Percent.decode (bytes.map plusToSpace))

def decodePair (piece : List UInt8) : String × String :=
  let name := piece.takeWhile (· ≠ 0x3D)
  (decodeText name, decodeText (piece.drop (name.length + 1)))

/-- The pairs in their order. -/
def decode (bytes : List UInt8) : List (String × String) :=
  ((bytes.splitOn 0x26).filter fun piece => !piece.isEmpty).map decodePair

end Urlencoded

end Bistro
