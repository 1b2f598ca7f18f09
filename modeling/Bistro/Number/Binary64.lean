/-!
# Double precision numbers

Finite numbers of 53 significant bits, kept as a significand and a power of two. Results are
rounded to the nearest such number, a tie going to the even significand, and nothing is returned
where the nearest one would be infinite.
-/

namespace Bistro

/-- A size without a sign: `significand * 2 ^ exponent`. The exponent is at least `-1074`, and above
that the significand has exactly 53 bits. -/
structure Magnitude where
  significand : Nat
  exponent : Int
  deriving DecidableEq, Repr

/-- A finite double precision number; zero has two signs. -/
structure Binary64 where
  negative : Bool
  magnitude : Magnitude
  deriving DecidableEq, Repr

namespace Magnitude

def zero : Magnitude := ⟨0, 0⟩

/-- `num / den`, rounded to a whole number, a tie going to the even one. -/
def roundQuotient (num den : Nat) : Nat :=
  let q := num / den
  let r := num % den
  if den < 2 * r || (2 * r == den && q % 2 == 1) then q + 1 else q

/-- `num / den / 2 ^ e`, rounded to a whole number. -/
def roundAt (num den : Nat) (e : Int) : Nat :=
  roundQuotient (num * Nat.pow 2 (-e).toNat) (den * Nat.pow 2 e.toNat)

/-- The exponent of the highest power of two that is at most `num / den`. -/
def floorLog (num den : Nat) : Int :=
  let k : Int := (num.log2 : Int) - den.log2
  if den * Nat.pow 2 k.toNat ≤ num * Nat.pow 2 (-k).toNat then k else k - 1

/-- The magnitude nearest to `num / den`. -/
def nearest (num den : Nat) : Option Magnitude :=
  if num = 0 then some zero
  else
    let e := max (floorLog num den - 52) (-1074)
    let q := roundAt num den e
    let m : Magnitude := if q = Nat.pow 2 53 then ⟨Nat.pow 2 52, e + 1⟩ else ⟨q, e⟩
    if m.exponent ≤ 971 then some m else none

/-- The magnitude nearest to `num / den * 2 ^ e`. -/
def nearestScaled (num den : Nat) (e : Int) : Option Magnitude :=
  nearest (num * Nat.pow 2 e.toNat) (den * Nat.pow 2 (-e).toNat)

def mul (a b : Magnitude) : Option Magnitude :=
  nearestScaled (a.significand * b.significand) 1 (a.exponent + b.exponent)

def div (a b : Magnitude) : Option Magnitude :=
  nearestScaled a.significand b.significand (a.exponent - b.exponent)

/-- Divides by `10 ^ 308` a number of times, stopping early at zero, and then by `10 ^ k`. -/
def shrink (k : Nat) : Nat → Magnitude → Option Magnitude
  | 0, f => (nearest (Nat.pow 10 k) 1).bind f.div
  | n + 1, f =>
    if f.significand = 0 then some f
    else ((nearest (Nat.pow 10 308) 1).bind f.div).bind (shrink k n)

/-- `n * 10 ^ e`, rounded three times: at `n`, at the power of ten, and at their product or
quotient. Powers of ten that have no double are taken in steps of `10 ^ 308`. -/
def ofDecimal (n : Nat) (e : Int) : Option Magnitude :=
  (nearest n 1).bind fun f =>
    if 0 ≤ e then
      if e ≤ 308 then (nearest (Nat.pow 10 e.toNat) 1).bind f.mul
      else if n = 0 then some zero
      else none
    else
      let size := (-e).toNat
      let steps := (size - 1) / 308
      shrink (size - 308 * steps) steps f

end Magnitude

end Bistro
