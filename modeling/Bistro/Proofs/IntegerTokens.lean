import Bistro.Json.Token
import Mathlib.Tactic.SplitIfs

/-!
# Integers in a text

Which numbers of a text are integers, and not doubles: those that are written as integers are
written here, with neither a fraction nor an exponent, within the range of 64 bits
(`Json.readNumber_eq_integer_iff`). A zero with a sign is no integer.
-/

namespace Bistro

namespace Decimal

theorem toNat_of_isDigit {c : Char} (h : isDigit c) : 48 ≤ c.toNat ∧ c.toNat ≤ 57 := by
  simpa [isDigit, Char.le_def, UInt32.le_iff_toNat_le] using h

theorem digitChar_digitValue {c : Char} (h : isDigit c) :
    digitValue c < 10 ∧ Nat.digitChar (digitValue c) = c := by
  have hc := toNat_of_isDigit h
  have hlt : digitValue c < 10 := by
    simp only [digitValue, Char.reduceToNat]
    omega
  refine ⟨hlt, Char.toNat_inj.1 ?_⟩
  rw [Nat.toNat_digitChar_of_lt_ten hlt]
  simp only [digitValue, Char.reduceToNat]
  omega

theorem isDigit_of_mem_digits {n : Nat} {c : Char} (h : c ∈ digits n) : isDigit c := by
  have hdigit := Nat.isDigit_of_mem_toDigits (by decide) (by decide) h
  simpa [isDigit, Char.isDigit, Char.le_def] using hdigit

/-- Digits behind a number that is not zero are the digits of what they make of it. -/
theorem digits_ofDigitChars {n : Nat} (hn : 0 < n) :
    ∀ {ds : List Char}, ds.all isDigit → digits (Nat.ofDigitChars 10 ds n) = digits n ++ ds
  | [], _ => by simp
  | c :: ds, h => by
    simp only [List.all_cons, Bool.and_eq_true] at h
    obtain ⟨hlt, hchar⟩ := digitChar_digitValue h.1
    have hone : digits (10 * n + digitValue c) = digits n ++ [c] := by
      rw [digits, ← Nat.toDigits_append_toDigits (by decide) hn hlt,
        Nat.toDigits_of_lt_base hlt, hchar, digits]
    calc digits (Nat.ofDigitChars 10 (c :: ds) n)
        = digits (Nat.ofDigitChars 10 ds (10 * n + digitValue c)) := by
          rw [Nat.ofDigitChars_cons, digitValue]
      _ = digits (10 * n + digitValue c) ++ ds := digits_ofDigitChars (by omega) h.2
      _ = digits n ++ c :: ds := by rw [hone, List.append_assoc, List.singleton_append]

/-- Digits that do not begin with zero are the digits of a number. -/
theorem digits_ofDigitChars_zero {c : Char} {ds : List Char} (hc : c ≠ '0')
    (h : (c :: ds).all isDigit) : digits (Nat.ofDigitChars 10 (c :: ds) 0) = c :: ds := by
  simp only [List.all_cons, Bool.and_eq_true] at h
  obtain ⟨hlt, hchar⟩ := digitChar_digitValue h.1
  have hpos : 0 < digitValue c := by
    rcases Nat.eq_zero_or_pos (digitValue c) with hzero | hpos
    · exact absurd hchar (by rw [hzero]; exact Ne.symm hc)
    · exact hpos
  rw [Nat.ofDigitChars_cons, Nat.mul_zero, Nat.zero_add, ← digitValue,
    digits_ofDigitChars hpos h.2, digits, Nat.toDigits_of_lt_base hlt, hchar,
    List.singleton_append]

theorem le_ofDigitChars :
    ∀ (ds : List Char) (n : Nat), n ≤ Nat.ofDigitChars 10 ds n
  | [], n => by simp
  | c :: ds, n => by
    rw [Nat.ofDigitChars_cons]
    exact Nat.le_trans (by omega) (le_ofDigitChars ds _)

/-- The digits of a number that is not zero do not begin with zero. -/
theorem exists_digits_eq_cons {n : Nat} (hn : 0 < n) : ∃ c ds, digits n = c :: ds ∧ c ≠ '0' := by
  induction n using Nat.strongRecOn with
  | ind n ih =>
    rw [digits, Nat.toDigits_eq_if (by decide)]
    split_ifs with hlt
    · exact ⟨_, [], rfl, fun h => by rw [Nat.digitChar_eq_zero] at h; omega⟩
    · obtain ⟨c, ds, hdigits, hc⟩ := ih (n / 10) (by omega) (by omega)
      rw [digits] at hdigits
      exact ⟨c, ds ++ [Nat.digitChar (n % 10)], by rw [hdigits]; rfl, hc⟩

end Decimal

namespace Json

variable {limit : Nat}

theorem gatherDigits_append {rest : List Char} :
    ∀ {ds : List Char} {n count : Nat}, ds.all Decimal.isDigit →
      Nat.ofDigitChars 10 ds n ≤ limit →
      gatherDigits limit n count (ds ++ rest) =
        gatherDigits limit (Nat.ofDigitChars 10 ds n) (count + ds.length) rest
  | [], n, count, _, _ => by simp
  | c :: ds, n, count, h, hlimit => by
    simp only [List.all_cons, Bool.and_eq_true] at h
    rw [Nat.ofDigitChars_cons] at hlimit ⊢
    have hone : n * 10 + Decimal.digitValue c = 10 * n + (c.toNat - '0'.toNat) := by
      rw [Nat.mul_comm, Decimal.digitValue]
    have hle := Nat.le_trans (Decimal.le_ofDigitChars ds _) hlimit
    rw [List.cons_append, gatherDigits, hone, h.1, decide_eq_true hle, Bool.and_self, if_pos rfl,
      gatherDigits_append h.2 hlimit, List.length_cons,
      Nat.add_assoc, Nat.add_comm 1]

theorem gatherDigits_of_not_digit {rest : List Char} (h : ¬ startsWithDigit rest) (n count : Nat) :
    gatherDigits limit n count rest = (n, count, rest) := by
  rcases rest with _ | ⟨c, rest⟩
  · rfl
  · rw [startsWithDigit, Bool.not_eq_true] at h
    rw [gatherDigits, h, Bool.false_and]
    rfl

/-- What is gathered are digits in front of what is left, and no more than the limit allows. -/
theorem exists_gathered {m k : Nat} {rest : List Char} :
    ∀ {s : List Char} {n count : Nat}, gatherDigits limit n count s = (m, k, rest) → n ≤ limit →
      ∃ ds, s = ds ++ rest ∧ ds.all Decimal.isDigit ∧ m = Nat.ofDigitChars 10 ds n ∧ m ≤ limit
  | [], n, count, h, hn => by
    cases h
    exact ⟨[], rfl, rfl, rfl, hn⟩
  | c :: s, n, count, h, hn => by
    rw [gatherDigits] at h
    split_ifs at h with hc
    · simp only [Bool.and_eq_true, decide_eq_true_eq] at hc
      obtain ⟨ds, rfl, hds, hm, hlimit⟩ := exists_gathered h hc.2
      refine ⟨c :: ds, rfl, by simp [hc.1, hds], ?_, hlimit⟩
      rw [hm, Nat.ofDigitChars_cons, Nat.mul_comm, Decimal.digitValue]
    · cases h
      exact ⟨[], rfl, rfl, rfl, hn⟩

section Doubles

variable {negative negativeExponent : Bool} {n : Nat} {e : Int} {s rest : List Char} {x : Number}

theorem eq_double_of_finishDouble (h : finishDouble negative n e s = .ok (x, rest)) :
    ∃ d, x = .double d := by
  unfold finishDouble at h
  split at h
  · cases h
    exact ⟨_, rfl⟩
  · cases h

theorem eq_double_of_readExponent (h : readExponent negative n e s = .ok (x, rest)) :
    ∃ d, x = .double d := by
  have hdigits : ∀ {negativeExponent : Bool} {s : List Char},
      readExponentDigits negative n e negativeExponent s = .ok (x, rest) → ∃ d, x = .double d := by
    intro negativeExponent s h
    unfold readExponentDigits at h
    split at h
    · cases h
    · rename_i c s
      generalize gatherDigits 2147483647 0 0 (c :: s) = gathered at h
      obtain ⟨y, k, r⟩ := gathered
      dsimp only at h
      split_ifs at h
      · cases h
        exact ⟨_, rfl⟩
      · exact eq_double_of_finishDouble h
      · exact eq_double_of_finishDouble h
  unfold readExponent at h
  split at h
  all_goals exact hdigits h

theorem eq_double_of_readScale (h : readScale negative n e s = .ok (x, rest)) :
    ∃ d, x = .double d := by
  unfold readScale at h
  split at h
  · exact eq_double_of_readExponent h
  · exact eq_double_of_readExponent h
  · exact eq_double_of_finishDouble h

theorem eq_double_of_readFraction (h : readFraction negative n e s = .ok (x, rest)) :
    ∃ d, x = .double d := by
  unfold readFraction at h
  dsimp only at h
  split_ifs at h
  · exact eq_double_of_readScale h
  · exact eq_double_of_readScale h

theorem eq_double_of_readLongTail (h : readLongTail negative n e s = .ok (x, rest)) :
    ∃ d, x = .double d := by
  unfold readLongTail at h
  split at h
  · exact eq_double_of_readFraction h
  · exact eq_double_of_readScale h

end Doubles

/-- Whether a fraction or an exponent follows. -/
def startsTail : List Char → Bool
  | c :: _ => c == '.' || c == 'e' || c == 'E'
  | [] => false

theorem wholeNumber_eq_integer_iff {negative : Bool} {n : Nat} {z : Int} :
    wholeNumber negative n = some (.integer z) ↔
      if negative then 0 < n ∧ n ≤ 9223372036854775808 ∧ z = -n else z = n := by
  unfold wholeNumber
  cases negative with
  | false => simp [eq_comm]
  | true =>
    simp only [if_true]
    split_ifs with hzero hlimit
    · simp [hzero]
    · simp [Nat.pos_of_ne_zero hzero, hlimit, eq_comm]
    · simp [hlimit]

theorem readTail_eq_integer_iff {negative : Bool} {n : Nat} {s rest : List Char} {z : Int} :
    readTail negative n s = .ok (.integer z, rest) ↔
      s = rest ∧ ¬ startsTail rest ∧ wholeNumber negative n = some (.integer z) := by
  have hdouble : ∀ d, Number.integer z ≠ .double d := nofun
  unfold readTail
  split
  · refine ⟨fun h => ?_, by rintro ⟨rfl, h, -⟩; exact absurd rfl h⟩
    obtain ⟨d, hd⟩ := eq_double_of_readFraction h
    exact absurd hd (hdouble d)
  · refine ⟨fun h => ?_, by rintro ⟨rfl, h, -⟩; exact absurd rfl h⟩
    obtain ⟨d, hd⟩ := eq_double_of_readExponent h
    exact absurd hd (hdouble d)
  · refine ⟨fun h => ?_, by rintro ⟨rfl, h, -⟩; exact absurd rfl h⟩
    obtain ⟨d, hd⟩ := eq_double_of_readExponent h
    exact absurd hd (hdouble d)
  · rename_i hpoint hlower hupper
    have htail : ¬ startsTail s := by
      rcases s with _ | ⟨c, s⟩
      · nofun
      · simp only [startsTail, Bool.or_eq_true, beq_iff_eq]
        rintro ((rfl | rfl) | rfl)
        · exact hpoint s rfl
        · exact hlower s rfl
        · exact hupper s rfl
    split
    · rename_i x hx
      simp only [hx, Except.ok.injEq, Prod.mk.injEq, Option.some.injEq]
      constructor
      · rintro ⟨rfl, rfl⟩
        exact ⟨rfl, htail, rfl⟩
      · rintro ⟨rfl, -, rfl⟩
        exact ⟨rfl, rfl⟩
    · rename_i hx
      simp [hx]

/-- Whether a number cannot go on here. -/
def EndsNumber (s : List Char) : Prop :=
  ¬ startsWithDigit s ∧ ¬ startsTail s

theorem gatherDigits_digits {n : Nat} {rest : List Char} (hn : n ≤ limit)
    (h : ¬ startsWithDigit rest) :
    gatherDigits limit 0 0 (Decimal.digits n ++ rest) = (n, (Decimal.digits n).length, rest) := by
  have hvalue : Nat.ofDigitChars 10 (Decimal.digits n) 0 = n := Nat.ofDigitChars_ten_toDigits
  rw [gatherDigits_append (List.all_eq_true.2 fun c => Decimal.isDigit_of_mem_digits)
    (by rw [hvalue]; exact hn), gatherDigits_of_not_digit h, hvalue, Nat.zero_add]

theorem readUnsigned_eq_integer_iff {negative : Bool} {s rest : List Char} {z : Int} :
    readUnsigned negative s = .ok (.integer z, rest) ↔
      EndsNumber rest ∧ ∃ n, s = Decimal.digits n ++ rest ∧ n ≤ maxWord ∧
        wholeNumber negative n = some (.integer z) := by
  constructor
  · intro h
    unfold readUnsigned at h
    split at h
    · cases h
    · split_ifs at h with hdigit
      obtain ⟨rfl, htail, hwhole⟩ := readTail_eq_integer_iff.1 h
      exact ⟨⟨hdigit, htail⟩, 0, rfl, by decide, hwhole⟩
    · rename_i c s hc
      split_ifs at h with hdigit
      rcases hgather : gatherDigits maxWord 0 0 (c :: s) with ⟨n, k, r⟩
      rw [hgather] at h
      dsimp only at h
      split_ifs at h with hmore
      · obtain ⟨d, hd⟩ := eq_double_of_readLongTail h
        cases hd
      · obtain ⟨rfl, htail, hwhole⟩ := readTail_eq_integer_iff.1 h
        obtain ⟨ds, hs, hds, hn, hlimit⟩ := exists_gathered hgather (Nat.zero_le _)
        refine ⟨⟨hmore, htail⟩, n, ?_, hlimit, hwhole⟩
        rcases ds with _ | ⟨c', ds⟩
        · obtain rfl : c :: s = r := hs
          exact absurd hdigit hmore
        · obtain ⟨rfl, -⟩ := List.cons.inj hs
          rw [hs, hn, Decimal.digits_ofDigitChars_zero hc hds]
  · rintro ⟨⟨hdigit, htail⟩, n, rfl, hn, hwhole⟩
    have hread : readTail negative n rest = .ok (.integer z, rest) :=
      readTail_eq_integer_iff.2 ⟨rfl, htail, hwhole⟩
    rcases Nat.eq_zero_or_pos n with rfl | hpos
    · have hzero : Decimal.digits 0 ++ rest = '0' :: rest := rfl
      rw [hzero, readUnsigned, if_neg hdigit, hread]
    · obtain ⟨c, ds, hdigits, hc⟩ := Decimal.exists_digits_eq_cons hpos
      have hfirst : Decimal.isDigit c := Decimal.isDigit_of_mem_digits (n := n) (by simp [hdigits])
      have hgather := gatherDigits_digits hn hdigit
      rw [hdigits, List.cons_append] at hgather ⊢
      rw [readUnsigned, if_pos hfirst, hgather]
      · simp only [hdigit, hread]
        rfl
      · exact fun h => absurd h hc

/-- A number is read as an integer if and only if it is written as one, within 64 bits. -/
theorem readNumber_eq_integer_iff {s rest : List Char} {z : Int} :
    readNumber s = .ok (.integer z, rest) ↔
      s = Decimal.chars z ++ rest ∧ EndsNumber rest ∧
        -9223372036854775808 ≤ z ∧ z ≤ 18446744073709551615 := by
  have hmax : maxWord = 18446744073709551615 := rfl
  unfold readNumber
  split
  · rename_i s
    rw [readUnsigned_eq_integer_iff]
    simp only [wholeNumber_eq_integer_iff, if_true]
    constructor
    · rintro ⟨hrest, n, rfl, -, hpos, hlimit, rfl⟩
      obtain ⟨k, rfl⟩ : ∃ k, n = k + 1 := ⟨n - 1, by omega⟩
      exact ⟨rfl, hrest, by omega, by omega⟩
    · rintro ⟨hs, hrest, hlow, -⟩
      rcases z with n | k
      · rcases hdigits : Decimal.digits n with _ | ⟨c, ds⟩
        · exact absurd hdigits Nat.toDigits_ne_nil
        · rw [Decimal.chars, hdigits] at hs
          obtain ⟨rfl, -⟩ := List.cons.inj hs
          exact absurd (Decimal.isDigit_of_mem_digits (hdigits ▸ List.mem_cons_self)) (by decide)
      · obtain rfl : s = Decimal.digits (k + 1) ++ rest := (List.cons.inj hs).2
        have hneg : Int.negSucc k = -((k + 1 : Nat) : Int) := rfl
        rw [hneg] at hlow ⊢
        exact ⟨hrest, k + 1, rfl, by omega, by omega, by omega, rfl⟩
  · rename_i hminus
    rw [readUnsigned_eq_integer_iff]
    simp only [wholeNumber_eq_integer_iff, Bool.false_eq_true, if_false]
    constructor
    · rintro ⟨hrest, n, rfl, hlimit, rfl⟩
      rw [hmax] at hlimit
      exact ⟨rfl, hrest, by omega, by omega⟩
    · rintro ⟨rfl, hrest, -, hhigh⟩
      rcases z with n | k
      · have hlimit : (n : Int) ≤ 18446744073709551615 := hhigh
        exact ⟨hrest, n, rfl, by omega, rfl⟩
      · exact absurd rfl (hminus _)

end Json

end Bistro
