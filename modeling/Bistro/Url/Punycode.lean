/-!
# Labels beyond ASCII

The name of a host is made of labels, and a label that holds other characters than ASCII is written
with the ASCII characters first, and then, as numbers to the base 36, how far to go from one
insertion of such a character to the next.
-/

namespace Bistro

namespace Punycode

def digit (n : Nat) : Char :=
  if n < 26 then Char.ofNat (0x61 + n) else Char.ofNat (0x30 + n - 26)

/-- How many digits at the least a number has, by how far its first digits reach. -/
def threshold (k bias : Nat) : Nat :=
  if k ≤ bias then 1 else if bias + 26 ≤ k then 26 else k - bias

/-- Divides by 35 until 455 suffices; a number of that many bits needs no more steps. -/
def adaptSteps : (fuel : Nat) → (delta k : Nat) → Nat × Nat
  | 0, delta, k => (delta, k)
  | fuel + 1, delta, k => if 455 < delta then adaptSteps fuel (delta / 35) (k + 36) else (delta, k)

/-- The bias after an insertion: `count` characters are there now. -/
def adapt (delta count : Nat) (first : Bool) : Nat :=
  let scaled := if first then delta / 700 else delta / 2
  let start := scaled + scaled / count
  let (rest, k) := adaptSteps (start.log2 + 1) start 0
  k + 36 * rest / (rest + 38)

/-- The digits of a distance. -/
def digits (bias : Nat) : (fuel : Nat) → (k q : Nat) → List Char
  | 0, _, _ => []
  | fuel + 1, k, q =>
    let t := threshold k bias
    if q < t then [digit q]
    else digit (t + (q - t) % (36 - t)) :: digits bias fuel (k + 36) ((q - t) / (36 - t))

/-- The way through the label: what is written, the distance since the last insertion, the bias, and
how many characters are there. -/
structure Walk where
  out : List Char
  delta : Nat
  bias : Nat
  count : Nat

/-- Passes one character of the label while those of code point `m` are inserted. -/
def visit (basic m : Nat) (w : Walk) (c : Char) : Walk :=
  if c.toNat < m then { w with delta := w.delta + 1 }
  else if c.toNat = m then
    { out := w.out ++ digits w.bias (w.delta.log2 + 2) 36 w.delta
      delta := 0
      bias := adapt w.delta (w.count + 1) (w.count == basic)
      count := w.count + 1 }
  else w

/-- Inserts the characters of the code points given, which increase; `n` is the next one. -/
def insertAll (label : List Char) (basic : Nat) : List Nat → Nat → Walk → Walk
  | [], _, w => w
  | m :: rest, n, w =>
    let ready := { w with delta := w.delta + (m - n) * (w.count + 1) }
    let passed := label.foldl (visit basic m) ready
    insertAll label basic rest (m + 1) { passed with delta := passed.delta + 1 }

/-- The code points of a list in increasing order, each once. -/
def increasing (points : List Nat) : List Nat :=
  (points.mergeSort (· ≤ ·)).eraseReps

/-- The label in ASCII characters. -/
def encode (label : List Char) : List Char :=
  let basic := label.filter fun c => c.toNat < 0x80
  let points := increasing ((label.filter fun c => 0x80 ≤ c.toNat).map Char.toNat)
  let start : Walk :=
    ⟨if basic.isEmpty then [] else basic ++ ['-'], 0, 72, basic.length⟩
  (insertAll label basic.length points 0x80 start).out

/-- What a character is worth as a digit. -/
def digitValue? (c : Char) : Option Nat :=
  if 'a' ≤ c ∧ c ≤ 'z' then some (c.toNat - 'a'.toNat)
  else if 'A' ≤ c ∧ c ≤ 'Z' then some (c.toNat - 'A'.toNat)
  else if '0' ≤ c ∧ c ≤ '9' then some (c.toNat - '0'.toNat + 26)
  else none

/-- The numbers that are kept to while reading. -/
def fits (n : Nat) : Bool :=
  n < 4294967296

/-- Reads a distance on top of `n`, and gives back what follows it. -/
def readDistance (bias : Nat) : (k weight n : Nat) → List Char → Option (Nat × List Char)
  | _, _, _, [] => none
  | k, weight, n, c :: rest => do
    let d ← digitValue? c
    let m := n + d * weight
    let t := threshold k bias
    if !fits m then none
    else if d < t then some (m, rest)
    else if !fits (weight * (36 - t)) then none
    else readDistance bias (k + 36) (weight * (36 - t)) m rest

/-- A label that is being read: its characters so far, the code point and the place of the next
insertion at the least, and the bias. -/
structure Reading where
  out : List Char
  point : Nat
  place : Nat
  bias : Nat

/-- Reads the insertions. Each of them takes at least one digit, so that their number suffices for
`fuel`. -/
def readInsertions : (fuel : Nat) → Reading → List Char → Option (List Char)
  | _, r, [] => some r.out
  | 0, _, _ :: _ => none
  | fuel + 1, r, form => do
    let (n, rest) ← readDistance r.bias 36 1 r.place form
    let count := r.out.length + 1
    let point := r.point + n / count
    let place := n % count
    if !point.isValidChar then none
    else
      readInsertions fuel
        { out := r.out.take place ++ Char.ofNat point :: r.out.drop place
          point
          place := place + 1
          bias := adapt (n - r.place) count (r.place == 0) }
        rest

/-- The label of a form. What stands before the last dash are its ASCII characters. -/
def decode (form : List Char) : Option (List Char) :=
  let basic := ((form.reverse.dropWhile (· ≠ '-')).drop 1).reverse
  let digits := if basic.isEmpty then form else form.drop (basic.length + 1)
  readInsertions digits.length ⟨basic, 0x80, 0, 72⟩ digits

end Punycode

end Bistro
