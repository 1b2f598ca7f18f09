import Bistro.Json.Skip
import Bistro.Proofs.Grammar
import Bistro.Proofs.Printed
import Mathlib.Data.List.DropRight

/-!
# Tokens scanned

A number goes as far as its token (`Json.skipNumber_append`) and is read as an integer if its token
is one of 64 bits (`Json.readNumber_iff`). A text goes as far as its closing quote
(`Json.skipText_append`) and is read if its escapes are characters (`Json.readText_iff`).
-/

namespace Bistro

namespace Json

variable {s rest : List Char}

theorem skipSpaces_skipSpaces (s : List Char) : skipSpaces (skipSpaces s) = skipSpaces s :=
  List.dropWhile_idempotent _ s

theorem length_skipSpaces_le (s : List Char) : (skipSpaces s).length ≤ s.length :=
  List.length_dropWhile_le _ _

theorem lt_length_of_skipSpaces {c : Char} {t : List Char} (h : skipSpaces s = c :: t) :
    t.length < s.length := by
  have hle := length_skipSpaces_le s
  rw [h, List.length_cons] at hle
  omega

theorem lt_length_of_token {c : Char} {t : List Char} (h : skipSpaces s = c :: (t ++ rest)) :
    rest.length < s.length := by
  have hlt := lt_length_of_skipSpaces h
  rw [List.length_append] at hlt
  omega

theorem startsWithDigit_append {digits : List Char} (h : IsDigits digits) (rest : List Char) :
    startsWithDigit (digits ++ rest) := by
  obtain ⟨c, ds, rfl⟩ := List.exists_cons_of_ne_nil h.1
  exact h.2 c List.mem_cons_self

theorem dropWhile_append_of_isDigits {digits : List Char} (h : IsDigits digits)
    (hrest : ¬ startsWithDigit rest) : (digits ++ rest).dropWhile Decimal.isDigit = rest := by
  rw [List.dropWhile_append_of_pos h.2]
  cases rest with
  | nil => rfl
  | cons c rest => exact List.dropWhile_cons_of_neg hrest

theorem skipExponentDigits_append {digits : List Char} (h : IsDigits digits)
    (hrest : ¬ startsWithDigit rest) : skipExponentDigits (digits ++ rest) = .ok rest := by
  have hdrop := dropWhile_append_of_isDigits h hrest
  obtain ⟨c, ds, rfl⟩ := List.exists_cons_of_ne_nil h.1
  have hc := h.2 c List.mem_cons_self
  rw [List.cons_append, List.dropWhile_cons_of_pos hc] at hdrop
  rw [List.cons_append, skipExponentDigits, if_pos hc, hdrop]

theorem ne_of_isDigit {c d : Char} (hc : Decimal.isDigit c) (hd : Decimal.isDigit d = false) :
    c ≠ d := by
  rintro rfl
  simp [hc] at hd

theorem skipExponent_append {sign digits : List Char}
    (hsign : sign = [] ∨ sign = ['+'] ∨ sign = ['-']) (h : IsDigits digits) (hrest : ¬ startsWithDigit rest) :
    skipExponent (sign ++ (digits ++ rest)) = .ok rest := by
  have hskip := skipExponentDigits_append h hrest
  rcases hsign with rfl | rfl | rfl
  · obtain ⟨c, ds, rfl⟩ := List.exists_cons_of_ne_nil h.1
    have hc := h.2 c List.mem_cons_self
    rw [List.nil_append, List.cons_append] at *
    rw [skipExponent]
    · exact hskip
    · rintro _ ⟨⟩
      exact absurd hc (by decide)
    · rintro _ ⟨⟩
      exact absurd hc (by decide)
  · exact hskip
  · exact hskip

theorem skipScale_append {exponent : List Char} (h : IsExponent exponent)
    (hrest : EndsNumber rest) : skipScale (exponent ++ rest) = .ok rest := by
  rcases h with rfl | ⟨letter, sign, digits, rfl, hletter, hsign, hdigits⟩
  · rw [List.nil_append, skipScale]
    · rintro r rfl
      exact hrest.2 rfl
    · rintro r rfl
      exact hrest.2 rfl
  · have hskip := skipExponent_append hsign hdigits hrest.1
    rw [List.cons_append, List.append_assoc]
    rcases hletter with rfl | rfl <;> exact hskip

/-- What follows the digits of the whole part does not begin with one. -/
theorem not_startsWithDigit_tail {fraction exponent : List Char} (hf : IsFraction fraction)
    (he : IsExponent exponent) (hrest : ¬ startsWithDigit rest) :
    ¬ startsWithDigit (fraction ++ (exponent ++ rest)) := by
  rcases hf with rfl | ⟨digits, rfl, -⟩
  · rcases he with rfl | ⟨letter, sign, digits, rfl, rfl | rfl, -⟩
    · exact hrest
    · exact (by decide : ¬ Decimal.isDigit 'e')
    · exact (by decide : ¬ Decimal.isDigit 'E')
  · exact (by decide : ¬ Decimal.isDigit '.')

theorem skipTail_append {fraction exponent : List Char} (hf : IsFraction fraction)
    (he : IsExponent exponent) (hrest : EndsNumber rest) :
    skipTail (fraction ++ (exponent ++ rest)) = .ok rest := by
  have hscale := skipScale_append he hrest
  rcases hf with rfl | ⟨digits, rfl, hdigits⟩
  · rw [List.nil_append, skipTail]
    · exact hscale
    · intro r hr
      rcases he with rfl | ⟨letter, sign, digits, rfl, rfl | rfl, -⟩
      · obtain rfl : rest = '.' :: r := hr
        exact hrest.2 rfl
      · cases hr
      · cases hr
  · have hnot : ¬ startsWithDigit (exponent ++ rest) :=
      not_startsWithDigit_tail (.inl rfl) he hrest.1
    rw [List.cons_append, skipTail, skipFraction, if_pos (startsWithDigit_append hdigits _),
      dropWhile_append_of_isDigits hdigits hnot, hscale]

theorem skipUnsigned_append {whole : List Char} (h : IsWhole whole)
    (hrest : ¬ startsWithDigit rest) : skipUnsigned (whole ++ rest) = skipTail rest := by
  obtain ⟨c, ds, rfl⟩ := List.exists_cons_of_ne_nil h.1.1
  by_cases hc : c = '0'
  · subst hc
    rw [h.2 rfl, List.singleton_append, skipUnsigned, if_neg hrest]
  · have hdigit := h.1.2 c List.mem_cons_self
    have hdrop := dropWhile_append_of_isDigits h.1 hrest
    rw [List.cons_append, List.dropWhile_cons_of_pos hdigit] at hdrop
    rw [List.cons_append, skipUnsigned, if_pos hdigit, hdrop]
    exact fun h => absurd h hc

/-- A number is passed over up to where it cannot go on. -/
theorem skipNumber_append {token : List Char} (h : IsNumber token) (hrest : EndsNumber rest) :
    skipNumber (token ++ rest) = .ok rest := by
  obtain ⟨sign, whole, fraction, exponent, rfl, hsign, hw, hf, he⟩ := h
  have htail := not_startsWithDigit_tail hf he hrest.1
  have hskip := skipUnsigned_append hw htail
  rw [skipTail_append hf he hrest] at hskip
  rw [List.append_assoc, List.append_assoc, List.append_assoc]
  rcases hsign with rfl | rfl
  · obtain ⟨c, ds, rfl⟩ := List.exists_cons_of_ne_nil hw.1.1
    rw [List.nil_append, List.cons_append] at *
    rw [skipNumber]
    · exact hskip
    · rintro _ ⟨⟩
      exact absurd (hw.1.2 '-' List.mem_cons_self) (by decide)
  · exact hskip

theorem IsNumber.startsNumber_append {token : List Char} (h : IsNumber token) (rest : List Char) :
    startsNumber (token ++ rest) := by
  obtain ⟨sign, whole, fraction, exponent, rfl, rfl | rfl, hw, -⟩ := h
  · obtain ⟨c, ds, rfl⟩ := List.exists_cons_of_ne_nil hw.1.1
    simp [startsNumber, hw.1.2 c List.mem_cons_self]
  · rfl

/-- A number is read as an integer if its token is what the integer is written as. -/
theorem readNumber_iff {token r : List Char} {z : Int} (h : IsNumber token)
    (hrest : EndsNumber rest) :
    readNumber (token ++ rest) = .ok (.integer z, r) ↔
      r = rest ∧ token = Decimal.chars z ∧
        -9223372036854775808 ≤ z ∧ z ≤ 18446744073709551615 := by
  rw [readNumber_eq_integer_iff]
  constructor
  · rintro ⟨heq, hr, hrange⟩
    -- both tokens are passed over from the same place
    have hskip := skipNumber_append h hrest
    rw [heq, skipNumber_append (isIntegerToken_chars z).isNumber hr] at hskip
    cases hskip
    exact ⟨rfl, List.append_cancel_right heq, hrange⟩
  · rintro ⟨rfl, rfl, hrange⟩
    exact ⟨rfl, hrest, hrange⟩

theorem escapedChar_u : escapedChar 'u' = none := by
  decide

theorem skipText_append {body : List Char} (h : IsBody body) :
    skipText (body ++ '"' :: rest) = .ok rest := by
  induction h with
  | nil => rfl
  | plain hc _ ih =>
    obtain ⟨hquote, hbackslash, hcontrol⟩ := hc
    rw [List.cons_append, skipText, if_neg (Nat.not_lt.2 hcontrol), ih]
    all_goals simp_all
  | @letter c x body hc _ ih =>
    have hu : c ≠ 'u' := by
      rintro rfl
      simp [escapedChar_u] at hc
    rw [List.cons_append, List.cons_append, skipText, hc]
    · exact ih
    all_goals simp_all
  | code hcode _ ih =>
    simp only [List.cons_append, skipText, hcode, ih]

theorem Unescapes.isBody {body chars : List Char} (h : Unescapes body chars) : IsBody body := by
  induction h with
  | nil => exact .nil
  | plain h _ ih => exact .plain h ih
  | letter h _ ih => exact .letter h ih
  | code h _ _ ih => exact .code h ih
  | pair first second _ ih => exact .code first.1 (.code second.1 ih)

theorem readTextBody_plain {c : Char} (hc : IsPlain c) (done rest : List Char) :
    readTextBody done (c :: rest) = readTextBody (c :: done) rest := by
  obtain ⟨hquote, hbackslash, hcontrol⟩ := hc
  rw [readTextBody, if_neg (Nat.not_lt.2 hcontrol)]
  all_goals simp_all

theorem readTextBody_letter {c x : Char} (hc : escapedChar c = some x) (done rest : List Char) :
    readTextBody done ('\\' :: c :: rest) = readTextBody (x :: done) rest := by
  have hu : c ≠ 'u' := by
    rintro rfl
    simp [escapedChar_u] at hc
  rw [readTextBody, hc]
  all_goals simp_all

theorem not_isSecondHalf_of_isFirstHalf {n : Nat} (h : isFirstHalf n) : ¬ isSecondHalf n := by
  simp only [isFirstHalf, isSecondHalf, Bool.and_eq_true, decide_eq_true_eq] at *
  omega

/-- The characters of a text are read if there are any. -/
theorem readTextBody_of_unescapes {body chars : List Char} (h : Unescapes body chars) :
    ∀ done, readTextBody done (body ++ '"' :: rest) =
      .ok (String.ofList (done.reverse ++ chars), rest) := by
  induction h with
  | nil =>
    intro done
    rw [List.nil_append, readTextBody, List.append_nil]
  | plain hc _ ih =>
    intro done
    rw [List.cons_append, readTextBody_plain hc, ih]
    simp
  | letter hc _ ih =>
    intro done
    rw [List.cons_append, List.cons_append, readTextBody_letter hc, ih]
    simp
  | code hcode half _ ih =>
    intro done
    simp [readTextBody, hcode, half.1, half.2, ih]
  | pair first second _ ih =>
    intro done
    have hnot := not_isSecondHalf_of_isFirstHalf first.2
    simp [readTextBody, first.1, first.2, second.1, second.2, hnot, ih]

theorem readTextBody_firstHalf {a b c d : Char} {n : Nat} (hcode : hexNumber a b c d = some n)
    (hfirst : isFirstHalf n) (done s : List Char) :
    readTextBody done ('\\' :: 'u' :: a :: b :: c :: d :: s) =
      match s with
      | '\\' :: 'u' :: e :: f :: g :: h :: s' =>
        match hexNumber e f g h with
        | none => .error (hexFault (e :: f :: g :: h :: s'))
        | some m =>
          if isSecondHalf m then readTextBody (pairChar n m :: done) s'
          else .error (.before .loneSurrogate s')
      | _ => .error (pairFault s) := by
  rw [readTextBody, hcode]
  exact (if_neg (not_isSecondHalf_of_isFirstHalf hfirst)).trans (if_pos hfirst)

/-- Behind the first half of a pair nothing but the second half is read. -/
theorem exists_second_of_read {body : List Char} (hbody : IsBody body) {a b c d : Char} {n : Nat}
    (hcode : hexNumber a b c d = some n) (hfirst : isFirstHalf n) {done : List Char}
    {x : String × List Char}
    (h : readTextBody done ('\\' :: 'u' :: a :: b :: c :: d :: (body ++ '"' :: rest)) = .ok x) :
    ∃ e f g k m more, body = '\\' :: 'u' :: e :: f :: g :: k :: more ∧ IsBody more ∧
      (hexNumber e f g k = some m ∧ isSecondHalf m) ∧
      readTextBody (pairChar n m :: done) (more ++ '"' :: rest) = .ok x := by
  rw [readTextBody_firstHalf hcode hfirst] at h
  split at h
  · rename_i e f g k s' hescape
    cases hbody with
    | nil => cases hescape
    | plain hplain _ => exact absurd (List.cons.inj hescape).1 hplain.2.1
    | letter hletter _ =>
      obtain rfl := (List.cons.inj (List.cons.inj hescape).2).1
      simp [escapedChar_u] at hletter
    | code hcode' hmore =>
      cases hescape
      simp only [hcode'] at h
      split_ifs at h with hsecond
      exact ⟨_, _, _, _, _, _, rfl, hmore, ⟨hcode', hsecond⟩, h⟩
  · cases h

theorem exists_unescapes_of_read : ∀ {body : List Char}, IsBody body → ∀ {done : List Char}
    {t : String} {r : List Char}, readTextBody done (body ++ '"' :: rest) = .ok (t, r) →
      ∃ chars, Unescapes body chars ∧ t = String.ofList (done.reverse ++ chars) ∧ r = rest
  | _, .nil, done, t, r, h => by
    rw [List.nil_append, readTextBody] at h
    cases h
    exact ⟨[], .nil, by simp, rfl⟩
  | _, .plain hc more, done, t, r, h => by
    rw [List.cons_append, readTextBody_plain hc] at h
    obtain ⟨chars, hchars, rfl, rfl⟩ := exists_unescapes_of_read more h
    exact ⟨_, .plain hc hchars, by simp, rfl⟩
  | _, .letter hc more, done, t, r, h => by
    rw [List.cons_append, List.cons_append, readTextBody_letter hc] at h
    obtain ⟨chars, hchars, rfl, rfl⟩ := exists_unescapes_of_read more h
    exact ⟨_, .letter hc hchars, by simp, rfl⟩
  | _, @IsBody.code a b c d n body hcode more, done, t, r, h => by
    by_cases hfirst : isFirstHalf n
    · obtain ⟨e, f, g, h', m, more', rfl, hmore, hsecond, hread⟩ :=
        exists_second_of_read more hcode hfirst h
      obtain ⟨chars, hchars, rfl, rfl⟩ := exists_unescapes_of_read hmore hread
      exact ⟨_, .pair ⟨hcode, hfirst⟩ hsecond hchars, by simp, rfl⟩
    · by_cases hsecond : isSecondHalf n
      · simp [readTextBody, hcode, hsecond] at h
      · simp [readTextBody, hcode, hsecond, hfirst] at h
        obtain ⟨chars, hchars, rfl, rfl⟩ := exists_unescapes_of_read more h
        exact ⟨_, .code hcode ⟨hfirst, hsecond⟩ hchars, by simp, rfl⟩
  termination_by body => body.length

/-- A text is read if its escapes are characters. -/
theorem readText_iff {body r : List Char} (h : IsBody body) {t : String} :
    readText (body ++ '"' :: rest) = .ok (t, r) ↔ r = rest ∧ Unescapes body t.toList := by
  constructor
  · intro hread
    obtain ⟨chars, hchars, rfl, rfl⟩ := exists_unescapes_of_read h hread
    exact ⟨rfl, by simpa using hchars⟩
  · rintro ⟨rfl, hchars⟩
    rw [readText, readTextBody_of_unescapes hchars]
    simp

end Json

end Bistro
