import Bistro.Json.Token
import Bistro.Proofs.IntegerTokens

/-!
# The grammar of JSON

Which trees a text spells, whatever reads it: numbers stand for their tokens and texts for what is
between their quotes, of any size and with any escapes. A token is an integer if it has neither a
fraction nor an exponent, and but for the zero with a sign it is what its value is written as
(`isIntegerToken_iff`).
-/

namespace Bistro

namespace Json

def IsDigits (s : List Char) : Prop :=
  s ≠ [] ∧ ∀ c ∈ s, Decimal.isDigit c

def IsWhole (s : List Char) : Prop :=
  IsDigits s ∧ (s.head? = some '0' → s = ['0'])

def IsFraction (s : List Char) : Prop :=
  s = [] ∨ ∃ digits, s = '.' :: digits ∧ IsDigits digits

def IsExponent (s : List Char) : Prop :=
  s = [] ∨ ∃ letter sign digits, s = letter :: (sign ++ digits) ∧ (letter = 'e' ∨ letter = 'E') ∧
    (sign = [] ∨ sign = ['+'] ∨ sign = ['-']) ∧ IsDigits digits

def IsNumber (token : List Char) : Prop :=
  ∃ sign whole fraction exponent, token = sign ++ (whole ++ (fraction ++ exponent)) ∧
    (sign = [] ∨ sign = ['-']) ∧ IsWhole whole ∧ IsFraction fraction ∧ IsExponent exponent

/-- The token of an integer, and its value. -/
inductive IsIntegerToken : List Char → Int → Prop
  | plain {whole : List Char} (h : IsWhole whole) :
      IsIntegerToken whole (Nat.ofDigitChars 10 whole 0)
  | minus {whole : List Char} (h : IsWhole whole) :
      IsIntegerToken ('-' :: whole) (-(Nat.ofDigitChars 10 whole 0 : Int))

theorem isDigits_digits (n : Nat) : IsDigits (Decimal.digits n) :=
  ⟨Nat.toDigits_ne_nil, fun _ => Decimal.isDigit_of_mem_digits⟩

theorem isWhole_digits (n : Nat) : IsWhole (Decimal.digits n) := by
  refine ⟨isDigits_digits n, fun hhead => ?_⟩
  rcases Nat.eq_zero_or_pos n with rfl | hpos
  · rfl
  · obtain ⟨c, ds, hdigits, hc⟩ := Decimal.exists_digits_eq_cons hpos
    rw [hdigits, List.head?_cons, Option.some.injEq] at hhead
    exact absurd hhead hc

/-- Digits are what their value is written as, if no zero stands in front of others. -/
theorem IsWhole.digits_eq {s : List Char} (h : IsWhole s) :
    Decimal.digits (Nat.ofDigitChars 10 s 0) = s := by
  obtain ⟨⟨hne, hdigits⟩, hzero⟩ := h
  obtain ⟨c, ds, rfl⟩ := List.exists_cons_of_ne_nil hne
  by_cases hc : c = '0'
  · rw [hzero (congrArg some hc)]
    rfl
  · exact Decimal.digits_ofDigitChars_zero hc (List.all_eq_true.2 hdigits)

theorem IsWhole.ofDigitChars_eq_zero_iff {s : List Char} (h : IsWhole s) :
    Nat.ofDigitChars 10 s 0 = 0 ↔ s = ['0'] := by
  refine ⟨fun hzero => ?_, fun hs => hs ▸ rfl⟩
  rw [← h.digits_eq, hzero]
  rfl

theorem IsIntegerToken.isNumber {token : List Char} {z : Int} (h : IsIntegerToken token z) :
    IsNumber token := by
  cases h with
  | plain h => exact ⟨[], _, [], [], by simp, .inl rfl, h, .inl rfl, .inl rfl⟩
  | minus h => exact ⟨['-'], _, [], [], by simp, .inr rfl, h, .inl rfl, .inl rfl⟩

theorem isIntegerToken_chars (z : Int) : IsIntegerToken (Decimal.chars z) z := by
  have hvalue (n : Nat) : Nat.ofDigitChars 10 (Decimal.digits n) 0 = n :=
    Nat.ofDigitChars_ten_toDigits
  cases z with
  | ofNat n =>
    have h := IsIntegerToken.plain (isWhole_digits n)
    rwa [hvalue] at h
  | negSucc n =>
    have h := IsIntegerToken.minus (isWhole_digits (n + 1))
    rwa [hvalue] at h

theorem isIntegerToken_iff {token : List Char} {z : Int} :
    IsIntegerToken token z ∧ token ≠ ['-', '0'] ↔ token = Decimal.chars z := by
  constructor
  · rintro ⟨⟨h⟩ | ⟨h⟩, hzero⟩
    · exact h.digits_eq.symm
    · rename_i whole
      have hpos : Nat.ofDigitChars 10 whole 0 ≠ 0 := fun heq =>
        hzero (congrArg _ (h.ofDigitChars_eq_zero_iff.1 heq))
      obtain ⟨n, hn⟩ := Nat.exists_eq_succ_of_ne_zero hpos
      have hdigits := h.digits_eq
      rw [hn] at hdigits ⊢
      exact congrArg ('-' :: ·) hdigits.symm
  · rintro rfl
    refine ⟨isIntegerToken_chars z, fun heq => ?_⟩
    cases z with
    | ofNat n =>
      have hdigits : Decimal.digits n = ['-', '0'] := heq
      have hminus : '-' ∈ Decimal.digits n := hdigits ▸ List.mem_cons_self
      exact absurd (Decimal.isDigit_of_mem_digits hminus) (by decide)
    | negSucc n =>
      have hdigits : Decimal.digits (n + 1) = ['0'] := (List.cons.inj heq).2
      have hvalue := (isWhole_digits (n + 1)).ofDigitChars_eq_zero_iff.2 hdigits
      rw [show Nat.ofDigitChars 10 (Decimal.digits (n + 1)) 0 = n + 1 from
        Nat.ofDigitChars_ten_toDigits] at hvalue
      omega

/-- A character that stands for itself in a text. -/
def IsPlain (c : Char) : Prop :=
  c ≠ '"' ∧ c ≠ '\\' ∧ 0x20 ≤ c.toNat

instance : DecidablePred IsPlain := fun c =>
  inferInstanceAs (Decidable (c ≠ '"' ∧ c ≠ '\\' ∧ 0x20 ≤ c.toNat))

/-- What may stand between the quotes of a text. -/
inductive IsBody : List Char → Prop
  | nil : IsBody []
  | plain {c : Char} {body : List Char} (h : IsPlain c) (more : IsBody body) : IsBody (c :: body)
  | letter {c x : Char} {body : List Char} (h : escapedChar c = some x) (more : IsBody body) :
      IsBody ('\\' :: c :: body)
  | code {a b c d : Char} {n : Nat} {body : List Char} (h : hexNumber a b c d = some n)
      (more : IsBody body) : IsBody ('\\' :: 'u' :: a :: b :: c :: d :: body)

/-- The characters that stand between the quotes of a text. There are none if an escape is one half
of a pair without the other. -/
inductive Unescapes : List Char → List Char → Prop
  | nil : Unescapes [] []
  | plain {c : Char} {body chars : List Char} (h : IsPlain c) (more : Unescapes body chars) :
      Unescapes (c :: body) (c :: chars)
  | letter {c x : Char} {body chars : List Char} (h : escapedChar c = some x)
      (more : Unescapes body chars) : Unescapes ('\\' :: c :: body) (x :: chars)
  | code {a b c d : Char} {n : Nat} {body chars : List Char} (h : hexNumber a b c d = some n)
      (half : ¬ isFirstHalf n ∧ ¬ isSecondHalf n) (more : Unescapes body chars) :
      Unescapes ('\\' :: 'u' :: a :: b :: c :: d :: body) (Char.ofNat n :: chars)
  | pair {a b c d e f g h : Char} {n m : Nat} {body chars : List Char}
      (first : hexNumber a b c d = some n ∧ isFirstHalf n)
      (second : hexNumber e f g h = some m ∧ isSecondHalf m) (more : Unescapes body chars) :
      Unescapes ('\\' :: 'u' :: a :: b :: c :: d :: '\\' :: 'u' :: e :: f :: g :: h :: body)
        (pairChar n m :: chars)

theorem unescapes_self {s : List Char} (h : s.all (IsPlain ·)) : Unescapes s s := by
  induction s with
  | nil => exact .nil
  | cons c s ih =>
    rw [List.all_cons, Bool.and_eq_true] at h
    exact .plain (of_decide_eq_true h.1) (ih h.2)

theorem not_unescapes_firstHalf {a b c d : Char} {n : Nat} {chars : List Char}
    (hcode : hexNumber a b c d = some n) (hfirst : isFirstHalf n) :
    ¬ Unescapes ['\\', 'u', a, b, c, d] chars := by
  intro h
  cases h with
  | plain hc _ => exact hc.2.1 rfl
  | letter hc _ => cases hc
  | code hcode' half _ =>
    cases hcode.symm.trans hcode'
    exact half.1 hfirst

/-- A value as it is spelled. -/
inductive Tree where
  | null
  | boolean (b : Bool)
  | number (token : List Char)
  | text (body : List Char)
  | list (items : List Tree)
  | object (members : List (List Char × Tree))

/-- The first item of a list or object begins at once, the others behind a comma. -/
def Goes (first : Bool) (s rest : List Char) : Prop :=
  if first then rest = s else skipSpaces s = ',' :: rest

mutual

/-- The value stands between two places of a text, blanks in front of it included. A number goes as
far as it can. -/
def Tree.Spells : Tree → List Char → List Char → Prop
  | .null, s, rest => skipSpaces s = 'n' :: 'u' :: 'l' :: 'l' :: rest
  | .boolean true, s, rest => skipSpaces s = 't' :: 'r' :: 'u' :: 'e' :: rest
  | .boolean false, s, rest => skipSpaces s = 'f' :: 'a' :: 'l' :: 's' :: 'e' :: rest
  | .number token, s, rest => skipSpaces s = token ++ rest ∧ IsNumber token ∧ EndsNumber rest
  | .text body, s, rest => skipSpaces s = '"' :: (body ++ '"' :: rest) ∧ IsBody body
  | .list items, s, rest => ∃ r, skipSpaces s = '[' :: r ∧ Tree.SpellsItems true items r rest
  | .object members, s, rest =>
    ∃ r, skipSpaces s = '\x7b' :: r ∧ Tree.SpellsMembers true members r rest

/-- The items of a list up to its end, with the closing bracket. -/
def Tree.SpellsItems : (first : Bool) → List Tree → List Char → List Char → Prop
  | _, [], s, rest => skipSpaces s = ']' :: rest
  | first, v :: items, s, rest =>
    ∃ s' r, Goes first s s' ∧ v.Spells s' r ∧ Tree.SpellsItems false items r rest

/-- The members of an object up to its end, with the closing brace. -/
def Tree.SpellsMembers : (first : Bool) → List (List Char × Tree) → List Char → List Char → Prop
  | _, [], s, rest => skipSpaces s = '\x7d' :: rest
  | first, (name, v) :: members, s, rest =>
    ∃ s' behind colon r, Goes first s s' ∧ skipSpaces s' = '"' :: (name ++ '"' :: behind) ∧
      IsBody name ∧ skipSpaces behind = ':' :: colon ∧ v.Spells colon r ∧
      Tree.SpellsMembers false members r rest

end

/-- A text that spells a value, and nothing behind it. -/
def Spelled (text : String) (v : Tree) : Prop :=
  ∃ rest, v.Spells text.toList rest ∧ skipSpaces rest = []

end Json

end Bistro
