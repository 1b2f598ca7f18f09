import Bistro.Text.CompositionTable

/-!
# Composed characters

A letter with marks may be one character or several. Composed text has as few as possible: every
character is taken apart, the marks are put in the order of their classes, and then each character
is put together with the letter before it where there is one for both. The syllables of Hangul are
taken apart and put together by arithmetic, all other characters by tables.
-/

namespace Bistro

namespace Composition

/-- The parts of a syllable: one of 19 leading consonants, one of 21 vowels, and up to one of 27
trailing consonants. -/
def hangulParts (c : Char) : List Char :=
  let n := c.toNat - 0xAC00
  let parts := [Char.ofNat (0x1100 + n / 588), Char.ofNat (0x1161 + n % 588 / 28)]
  if n % 28 = 0 then parts else parts ++ [Char.ofNat (0x11A7 + n % 28)]

def isHangul (c : Char) : Bool :=
  0xAC00 ≤ c.toNat && c.toNat ≤ 0xD7A3

/-- The syllable of two parts, of which the first may be a syllable without a trailing consonant. -/
def hangulSyllable (a b : Char) : Option Char :=
  let x := a.toNat
  let y := b.toNat
  if 0x1100 ≤ x ∧ x ≤ 0x1112 ∧ 0x1161 ≤ y ∧ y ≤ 0x1175 then
    some (Char.ofNat (0xAC00 + (x - 0x1100) * 588 + (y - 0x1161) * 28))
  else if isHangul a ∧ (x - 0xAC00) % 28 = 0 ∧ 0x11A8 ≤ y ∧ y ≤ 0x11C2 then
    some (Char.ofNat (x + (y - 0x11A7)))
  else none

/-- What a character is composed of, down to `depth` levels. -/
def partsWithin : (depth : Nat) → Char → List Char
  | 0, c => [c]
  | depth + 1, c =>
    match compositionTable.find? c with
    | some entry => (entry.charsAt c).flatMap (partsWithin depth)
    | none => [c]

/-- What a character is composed of. No table entry leads through more than three others. -/
def parts (c : Char) : List Char :=
  if isHangul c then hangulParts c else partsWithin 4 c

/-- The class of a mark, or zero. -/
def markClass (c : Char) : Nat :=
  ((markClassTable.find? c).bind fun entry => entry.values.head?).getD 0

/-- Puts a character in front of others, a mark behind those of lower classes. -/
def insert (c : Char) : List Char → List Char
  | [] => [c]
  | d :: rest =>
    if 0 < markClass d ∧ markClass d < markClass c then d :: insert c rest else c :: d :: rest

/-- Puts the marks behind each letter in the order of their classes. -/
def arrange (s : List Char) : List Char :=
  s.foldr insert []

/-- The first character that can be put behind another. -/
def firstMark : Nat := 0x300

/-- The character that is composed of two. -/
def pair (a b : Char) : Option Char :=
  if b.toNat < firstMark then none
  else
    (hangulSyllable a b).orElse fun _ =>
      let entry := List.find? (fun r => r.values == [a.toNat, b.toNat]) compositionTable
      (entry.map fun r => Char.ofNat r.first).filter fun c => !uncomposedTable.contains c

/-- The text so far: what is done, the last one first; the letter that may still be put together
with what comes; and the marks that stay behind it, the last one first. -/
structure Walk where
  done : List Char
  letter : Option Char
  marks : List Char

/-- Adds a character. A mark behind one of its own or a higher class does not reach the letter, and
a letter behind a mark does not either. -/
def Walk.step (w : Walk) (c : Char) : Walk :=
  let reaches := match w.marks with
    | [] => true
    | m :: _ => markClass m < markClass c
  match if reaches then w.letter.bind fun l => pair l c else none with
  | some composed => { w with letter := some composed }
  | none =>
    if markClass c = 0 then ⟨w.marks ++ w.letter.toList ++ w.done, some c, []⟩
    else { w with marks := c :: w.marks }

def Walk.finish (w : Walk) : List Char :=
  (w.marks ++ w.letter.toList ++ w.done).reverse

/-- Puts together what can be. -/
def compose (s : List Char) : List Char :=
  (s.foldl Walk.step ⟨[], none, []⟩).finish

end Composition

/-- The text in composed characters. -/
def composed (s : List Char) : List Char :=
  Composition.compose (Composition.arrange (s.flatMap Composition.parts))

end Bistro
