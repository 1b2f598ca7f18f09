import Bistro.Number.Binary64

/-!
# The shortest decimal of a double

Among the decimals that are read back as a given number, those with the fewest digits are the
candidates, and of them the one nearest to the number is written. It is searched on the grids of
one digit, two digits and so on: if any point of a grid is read back as the number, so is one of the
two points next to it.
-/

namespace Bistro

/-- The decimal `digits * 10 ^ exponent`. -/
structure ShortDecimal where
  digits : Nat
  exponent : Int
  deriving DecidableEq, Repr

namespace Magnitude

/-- The exponent of the highest power of ten that is at most `num / den`. -/
def decimalOrder (num den : Nat) : Int :=
  if den ≤ num then (Nat.toDigits 10 (num / den)).length - 1
  else -((Nat.toDigits 10 ((den + num - 1) / num - 1)).length : Int)

/-- The reals that are rounded to a number, all over the denominator `den`: the number itself, the
lower and the upper end, and whether the ends belong to it. -/
structure Basin where
  value : Nat
  low : Nat
  high : Nat
  den : Nat
  closed : Bool

/-- Halfway to the neighbours. Below a power of two the neighbour is nearer. -/
def basin (m : Magnitude) : Basin :=
  let gap := if m.significand = Nat.pow 2 52 ∧ -1074 < m.exponent then 1 else 2
  let up := Nat.pow 2 m.exponent.toNat
  { value := 4 * m.significand * up
    low := (4 * m.significand - gap) * up
    high := (4 * m.significand + 2) * up
    den := 4 * Nat.pow 2 (-m.exponent).toNat
    closed := m.significand % 2 = 0 }

/-- Whether `d * 10 ^ k` lies in the basin. -/
def Basin.holds (b : Basin) (d : Nat) (k : Int) : Bool :=
  let x := d * Nat.pow 10 k.toNat * b.den
  let scale := Nat.pow 10 (-k).toNat
  if b.closed then b.low * scale ≤ x && x ≤ b.high * scale
  else b.low * scale < x && x < b.high * scale

/-- The point of the grid `10 ^ k` next to the number that is read back as it, if there is one. -/
def Basin.hit (b : Basin) (k : Int) : Option Nat :=
  let scaled := b.value * Nat.pow 10 (-k).toNat
  let unit := b.den * Nat.pow 10 k.toNat
  let d := scaled / unit
  match b.holds d k, b.holds (d + 1) k with
  | true, true =>
    let r := 2 * (scaled % unit)
    some (if r < unit || (r == unit && d % 2 == 0) then d else d + 1)
  | true, false => some d
  | false, true => some (d + 1)
  | false, false => none

/-- The shortest decimal that is read back as the magnitude. -/
def shortest (m : Magnitude) : ShortDecimal :=
  if m.significand = 0 then ⟨0, 0⟩
  else
    let b := m.basin
    let order := decimalOrder b.value b.den
    let found := (List.range 17).findSome? fun (i : Nat) =>
      let k : Int := order - i
      (b.hit k).map fun d => (⟨d, k⟩ : ShortDecimal)
    found.getD ⟨0, 0⟩

end Magnitude

end Bistro
