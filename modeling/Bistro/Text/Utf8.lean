/-!
# UTF-8 with replacement

Bytes are read as UTF-8. Where they are not, each longest piece that could have begun a character
becomes one replacement character, and so does each byte that could begin none.
-/

namespace Bistro

namespace Utf8

/-- The replacement character. -/
def replacement : Char := '\uFFFD'

/-- What is known of a character whose bytes are not all there yet: how many are missing, the bits
so far, and the range of the next byte. -/
structure Pending where
  missing : Nat
  bits : Nat
  low : Nat
  high : Nat

/-- The characters read, last one first, and the character that is being read. -/
structure State where
  done : List Char
  pending : Option Pending

/-- The first byte of a character. -/
def first (done : List Char) (b : Nat) : State :=
  if b < 0x80 then ⟨Char.ofNat b :: done, none⟩
  else if 0xC2 ≤ b && b ≤ 0xDF then ⟨done, some ⟨1, b % 0x20, 0x80, 0xBF⟩⟩
  else if b == 0xE0 then ⟨done, some ⟨2, 0, 0xA0, 0xBF⟩⟩
  else if b == 0xED then ⟨done, some ⟨2, 0xD, 0x80, 0x9F⟩⟩
  else if 0xE1 ≤ b && b ≤ 0xEF then ⟨done, some ⟨2, b % 0x10, 0x80, 0xBF⟩⟩
  else if b == 0xF0 then ⟨done, some ⟨3, 0, 0x90, 0xBF⟩⟩
  else if 0xF1 ≤ b && b ≤ 0xF3 then ⟨done, some ⟨3, b % 8, 0x80, 0xBF⟩⟩
  else if b == 0xF4 then ⟨done, some ⟨3, 4, 0x80, 0x8F⟩⟩
  else ⟨replacement :: done, none⟩

/-- One more byte. A byte that does not continue the pending character begins a new one. -/
def step (s : State) (b : UInt8) : State :=
  match s.pending with
  | none => first s.done b.toNat
  | some p =>
    if p.low ≤ b.toNat && b.toNat ≤ p.high then
      let bits := p.bits * 0x40 + b.toNat % 0x40
      match p.missing with
      | 0 | 1 => ⟨Char.ofNat bits :: s.done, none⟩
      | n + 1 => ⟨s.done, some ⟨n, bits, 0x80, 0xBF⟩⟩
    else first (replacement :: s.done) b.toNat

/-- The text of a state in which no more bytes come. -/
def State.finish (s : State) : String :=
  String.ofList ((match s.pending with
    | none => s.done
    | some _ => replacement :: s.done).reverse)

/-- Reads bytes of which some may not be UTF-8. -/
def readLossy (bytes : List UInt8) : String :=
  (bytes.foldl step ⟨[], none⟩).finish

/-- Reads bytes as UTF-8, with replacement characters where they are not. -/
def read (bytes : List UInt8) : String :=
  match String.fromUTF8? ⟨bytes.toArray⟩ with
  | some s => s
  | none => readLossy bytes

end Utf8

/-- The bytes of a text. -/
def utf8 (s : String) : List UInt8 :=
  s.toUTF8.data.toList

end Bistro
