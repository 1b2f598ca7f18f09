import Bistro.Proofs.Fitting
import Bistro.Proofs.IntegerTokens
import Bistro.Proofs.Reading
import Bistro.Proofs.Trimmed

/-!
# Integers that are spelled out

A text spells an integer if it has at least one digit and nothing but digits behind at most one
sign; any number of zeros may stand in front. Such texts are read, and no others, as long as the
integer stays in its range (`Decimal.read_eq_ok_iff`). What is written is read back
(`readInt32_chars`).
-/

namespace Bistro

namespace Decimal

def IsNumeral (ds : List Char) : Prop :=
  ds ≠ [] ∧ ds.all isDigit

/-- The integer of the digits of a text, behind at most one sign. -/
inductive Spells : List Char → Int → Prop
  | unsigned {ds : List Char} : IsNumeral ds → Spells ds (Nat.ofDigitChars 10 ds 0)
  | plus {ds : List Char} : IsNumeral ds → Spells ('+' :: ds) (Nat.ofDigitChars 10 ds 0)
  | minus {ds : List Char} : IsNumeral ds → Spells ('-' :: ds) (-Nat.ofDigitChars 10 ds 0)

theorem IsNumeral.isDigit_of_cons {c : Char} {ds : List Char} (h : IsNumeral (c :: ds)) :
    isDigit c := by
  have hall := h.2
  rw [List.all_cons, Bool.and_eq_true] at hall
  exact hall.1

theorem not_isNumeral_nil : ¬ IsNumeral [] := fun h => h.1 rfl

theorem spells_nil_iff {z : Int} : Spells [] z ↔ False := by
  refine ⟨fun h => ?_, False.elim⟩
  cases h with
  | unsigned h => exact not_isNumeral_nil h

theorem spells_plus_iff {ds : List Char} {z : Int} :
    Spells ('+' :: ds) z ↔ IsNumeral ds ∧ z = Nat.ofDigitChars 10 ds 0 := by
  constructor
  · intro h
    cases h with
    | unsigned h => exact absurd h.isDigit_of_cons (by decide)
    | plus h => exact ⟨h, rfl⟩
  · rintro ⟨h, rfl⟩
    exact .plus h

theorem spells_minus_iff {ds : List Char} {z : Int} :
    Spells ('-' :: ds) z ↔ IsNumeral ds ∧ z = -Nat.ofDigitChars 10 ds 0 := by
  constructor
  · intro h
    cases h with
    | unsigned h => exact absurd h.isDigit_of_cons (by decide)
    | minus h => exact ⟨h, rfl⟩
  · rintro ⟨h, rfl⟩
    exact .minus h

theorem spells_unsigned_iff {s : List Char} {z : Int} (hplus : ∀ ds, s ≠ '+' :: ds)
    (hminus : ∀ ds, s ≠ '-' :: ds) :
    Spells s z ↔ IsNumeral s ∧ z = Nat.ofDigitChars 10 s 0 := by
  constructor
  · intro h
    cases h with
    | unsigned h => exact ⟨h, rfl⟩
    | plus h => exact absurd rfl (hplus _)
    | minus h => exact absurd rfl (hminus _)
  · rintro ⟨h, rfl⟩
    exact .unsigned h

/-- What an integer is made of. -/
theorem Spells.forall_mem {p : Char → Prop} (hdigit : ∀ c, isDigit c → p c) (hplus : p '+')
    (hminus : p '-') {s : List Char} {z : Int} (h : Spells s z) : ∀ c ∈ s, p c := by
  have hdigits : ∀ {ds : List Char}, IsNumeral ds → ∀ c ∈ ds, p c := fun hds c hc =>
    hdigit c (List.all_eq_true.1 hds.2 c hc)
  cases h with
  | unsigned h => exact hdigits h
  | plus h => exact List.forall_mem_cons.2 ⟨hplus, hdigits h⟩
  | minus h => exact List.forall_mem_cons.2 ⟨hminus, hdigits h⟩

theorem isBlank_of_isDigit {c : Char} (h : isDigit c) : isBlank c = false := by
  have hbounds := toNat_of_isDigit h
  simp only [isBlank, Bool.or_eq_false_iff, Bool.and_eq_false_iff, decide_eq_false_iff_not,
    beq_eq_false_iff_ne]
  omega

/-- Digits are read up to the end, as long as their number stays within the limit: it only grows, so
it has stayed there if it is there in the end. -/
theorem readDigits_eq_ok_iff {limit m : Nat} {beyond : Fault} :
    ∀ {s : List Char} {n : Nat}, n ≤ limit →
      (readDigits limit beyond n s = .ok m ↔
        s.all isDigit ∧ m = Nat.ofDigitChars 10 s n ∧ m ≤ limit)
  | [], n, hn => by
    simp only [readDigits, Except.ok.injEq, List.all_nil, Nat.ofDigitChars_nil, true_and]
    exact ⟨fun h => ⟨h.symm, h ▸ hn⟩, fun h => h.1.symm⟩
  | c :: s, n, hn => by
    have hone : n * 10 + digitValue c = 10 * n + (c.toNat - '0'.toNat) := by
      rw [Nat.mul_comm, digitValue]
    simp only [readDigits, List.all_cons, Bool.and_eq_true, Nat.ofDigitChars_cons, hone]
    split_ifs with hc hle
    · rw [readDigits_eq_ok_iff hle]
      simp [hc]
    · have hgrows := le_ofDigitChars s (10 * n + (c.toNat - '0'.toNat))
      simp only [false_iff, not_and]
      rintro - rfl hm
      omega
    · simp [hc]

section Range

variable {lo hi z : Int} {beyond : Fault} {s : List Char}

theorem readUnsigned_eq_ok_iff (hlo : lo < 0) (hhi : 0 ≤ hi) (hs : s ≠ []) :
    (readDigits hi.toNat beyond 0 s).map Int.ofNat = .ok z ↔
      (IsNumeral s ∧ z = Nat.ofDigitChars 10 s 0) ∧ lo ≤ z ∧ z ≤ hi := by
  rw [map_eq_ok_iff, IsNumeral]
  simp only [readDigits_eq_ok_iff (Nat.zero_le _), Int.ofNat_eq_natCast]
  constructor
  · rintro ⟨m, ⟨hdigits, rfl, hle⟩, rfl⟩
    exact ⟨⟨⟨hs, hdigits⟩, rfl⟩, by omega, by omega⟩
  · rintro ⟨⟨⟨-, hdigits⟩, rfl⟩, -, hle⟩
    exact ⟨_, ⟨hdigits, rfl, by omega⟩, rfl⟩

theorem readNegative_eq_ok_iff (hlo : lo < 0) (hhi : 0 ≤ hi) (hs : s ≠ []) :
    ((readDigits (-lo).toNat beyond 0 s).map fun n => -Int.ofNat n) = .ok z ↔
      (IsNumeral s ∧ z = -Nat.ofDigitChars 10 s 0) ∧ lo ≤ z ∧ z ≤ hi := by
  rw [map_eq_ok_iff, IsNumeral]
  simp only [readDigits_eq_ok_iff (Nat.zero_le _), Int.ofNat_eq_natCast]
  constructor
  · rintro ⟨m, ⟨hdigits, rfl, hle⟩, rfl⟩
    exact ⟨⟨⟨hs, hdigits⟩, rfl⟩, by omega, by omega⟩
  · rintro ⟨⟨⟨-, hdigits⟩, rfl⟩, hle, -⟩
    exact ⟨_, ⟨hdigits, rfl, by omega⟩, rfl⟩

/-- An integer is read from exactly the texts that spell it, if it is in the range. -/
theorem read_eq_ok_iff (hlo : lo < 0) (hhi : 0 ≤ hi) :
    read lo hi s = .ok z ↔ Spells s z ∧ lo ≤ z ∧ z ≤ hi := by
  unfold read
  split
  · simp [spells_nil_iff]
  · simp [spells_plus_iff, not_isNumeral_nil]
  · simp [spells_minus_iff, not_isNumeral_nil]
  · rename_i hne
    rw [readUnsigned_eq_ok_iff hlo hhi hne, spells_plus_iff]
  · rename_i hne
    rw [if_pos hlo, readNegative_eq_ok_iff hlo hhi hne, spells_minus_iff]
  · rename_i hne _ _ hplus hminus
    rw [readUnsigned_eq_ok_iff hlo hhi hne, spells_unsigned_iff hplus hminus]

end Range

theorem isNumeral_digits (n : Nat) : IsNumeral (digits n) :=
  ⟨Nat.toDigits_ne_nil, List.all_eq_true.2 fun _ => isDigit_of_mem_digits⟩

/-- An integer is spelled by the characters that it is written with. -/
theorem spells_chars : ∀ z : Int, Spells (chars z) z
  | .ofNat n => by
    have h := Spells.unsigned (isNumeral_digits n)
    rwa [digits, Nat.ofDigitChars_ten_toDigits] at h
  | .negSucc n => by
    have h := Spells.minus (isNumeral_digits (n + 1))
    rwa [digits, Nat.ofDigitChars_ten_toDigits] at h

end Decimal

theorem readInt32_eq_ok_iff {s : List Char} {n : Int32} :
    readInt32 s = .ok n ↔ Decimal.Spells s n.toInt := by
  rw [readInt32, map_eq_ok_iff]
  simp only [Decimal.read_eq_ok_iff (by decide : (-2147483648 : Int) < 0)
    (by decide : (0 : Int) ≤ 2147483647)]
  constructor
  · rintro ⟨z, ⟨hspells, hrange⟩, hz⟩
    exact int32_iff.1 ⟨hrange, hz⟩ ▸ hspells
  · intro hspells
    obtain ⟨hrange, hz⟩ := int32_iff.2 (Eq.refl n.toInt)
    exact ⟨n.toInt, ⟨hspells, hrange⟩, hz⟩

theorem readInt32_chars (n : Int32) : readInt32 (Decimal.chars n.toInt) = .ok n :=
  readInt32_eq_ok_iff.2 (Decimal.spells_chars _)

end Bistro
