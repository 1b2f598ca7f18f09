/-!
# Gzip

Bytes in a gzip file of stored blocks: a fixed head, blocks of at most 65535 bytes behind their
sizes, the checksum of the bytes and their number.
-/

namespace Bistro

namespace Gzip

/-- One bit of a checksum, by the reflected polynomial of CRC-32. -/
def shift (c : UInt32) : UInt32 :=
  if c &&& 1 = 1 then (c >>> 1) ^^^ 0xEDB88320 else c >>> 1

def shifts : Nat → UInt32 → UInt32
  | 0, c => c
  | n + 1, c => shifts n (shift c)

/-- The checksum of bytes. -/
def checksum (bytes : List UInt8) : UInt32 :=
  ~~~(bytes.foldl (fun c b => shifts 8 (c ^^^ b.toUInt32)) 0xFFFFFFFF)

/-- The lowest `n` bytes of a number, the lowest one first. -/
def littleEndian : Nat → Nat → List UInt8
  | 0, _ => []
  | n + 1, v => UInt8.ofNat v :: littleEndian n (v / 256)

/-- The most bytes that a block holds. -/
def blockSize : Nat := 65535

/-- A stored block: whether it is the last one, its size, the size again with all bits turned over,
and its bytes. -/
def block (last : Bool) (bytes : List UInt8) : List UInt8 :=
  (if last then 1 else 0) :: littleEndian 2 bytes.length ++
    littleEndian 2 (blockSize - bytes.length) ++ bytes

/-- The blocks of bytes. -/
def blocks (bytes : List UInt8) : List UInt8 :=
  if bytes.length ≤ blockSize then block true bytes
  else block false (bytes.take blockSize) ++ blocks (bytes.drop blockSize)
termination_by bytes.length
decreasing_by
  simp only [List.length_drop, blockSize] at *
  omega

/-- The file that holds bytes. -/
def pack (bytes : List UInt8) : List UInt8 :=
  [0x1F, 0x8B, 8, 0, 0, 0, 0, 0, 0, 0xFF] ++ blocks bytes ++
    littleEndian 4 (checksum bytes).toNat ++ littleEndian 4 bytes.length

end Gzip

end Bistro
