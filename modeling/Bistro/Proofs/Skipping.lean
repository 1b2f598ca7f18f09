import Bistro.Proofs.Scanning

/-!
# Values passed over

A spelled value is passed over up to its end, whatever it is (`Json.skipValue_of_spells`). The
induction is on the tree, with all that is open around it: a value is skipped if it can be gone on
behind it.
-/

namespace Bistro

namespace Json

variable {s rest : List Char}

theorem Tree.spells_skipSpaces {v : Tree} : v.Spells (skipSpaces s) rest ↔ v.Spells s rest := by
  rcases v with _ | ⟨_ | _⟩ | _ | _ | _ | _ <;> simp only [Tree.Spells, skipSpaces_skipSpaces]

theorem IsNumber.exists_cons {token : List Char} (h : IsNumber token) :
    ∃ c t, token = c :: t ∧ (c = '-' ∨ Decimal.isDigit c) := by
  obtain ⟨sign, whole, fraction, exponent, rfl, rfl | rfl, hw, -⟩ := h
  · obtain ⟨c, ds, rfl⟩ := List.exists_cons_of_ne_nil hw.1.1
    exact ⟨c, _, rfl, .inr (hw.1.2 c List.mem_cons_self)⟩
  · exact ⟨'-', _, rfl, .inl rfl⟩

/-- The character that a value begins with. -/
def Tree.Begins : Tree → Char → Prop
  | .null, c => c = 'n'
  | .boolean true, c => c = 't'
  | .boolean false, c => c = 'f'
  | .number _, c => c = '-' ∨ Decimal.isDigit c
  | .text _, c => c = '"'
  | .list _, c => c = '['
  | .object _, c => c = '\x7b'

theorem Tree.Spells.exists_begins {v : Tree} (h : v.Spells s rest) :
    ∃ c t, skipSpaces s = c :: t ∧ v.Begins c := by
  rcases v with _ | ⟨_ | _⟩ | token | body | items | members <;> simp only [Tree.Spells] at h
  · exact ⟨_, _, h, rfl⟩
  · exact ⟨_, _, h, rfl⟩
  · exact ⟨_, _, h, rfl⟩
  · obtain ⟨c, t, rfl, hc⟩ := h.2.1.exists_cons
    exact ⟨c, _, h.1, hc⟩
  · exact ⟨_, _, h.1, rfl⟩
  · exact ⟨_, _, h.choose_spec.1, rfl⟩
  · exact ⟨_, _, h.choose_spec.1, rfl⟩

theorem Tree.Spells.begins {v : Tree} (h : v.Spells s rest) {c : Char} {t : List Char}
    (hs : skipSpaces s = c :: t) : v.Begins c := by
  obtain ⟨d, t', hd, hbegins⟩ := h.exists_begins
  rw [hs] at hd
  cases hd
  exact hbegins

theorem Tree.Spells.startsValue {v : Tree} (h : v.Spells s rest) : StartsValue (skipSpaces s) := by
  obtain ⟨c, t, hs, hc⟩ := h.exists_begins
  have hsign : ∀ {d : Char}, c = d → isSpace d = false ∧ d ≠ ']' → isSpace c = false ∧ c ≠ ']' :=
    fun hd h => hd ▸ h
  refine ⟨c, t, hs, ?_⟩
  rcases v with _ | ⟨_ | _⟩ | token | body | items | members
  case number =>
    rcases hc with hc | hc
    · exact hsign hc (by decide)
    · exact ⟨isSpace_of_isDigit hc, ne_of_isDigit hc (by decide)⟩
  all_goals exact hsign hc (by decide)

theorem Goes.length_le {first : Bool} {s' : List Char} (h : Goes first s s') :
    s'.length ≤ s.length := by
  unfold Goes at h
  split_ifs at h
  · rw [h]
  · exact (lt_length_of_skipSpaces h).le

mutual

/-- What spells a value is not empty. -/
theorem Tree.Spells.length_lt : ∀ {v : Tree} {s rest : List Char}, v.Spells s rest →
    rest.length < s.length
  | .null, _, _, h => lt_length_of_token (t := ['u', 'l', 'l']) h
  | .boolean true, _, _, h => lt_length_of_token (t := ['r', 'u', 'e']) h
  | .boolean false, _, _, h => lt_length_of_token (t := ['a', 'l', 's', 'e']) h
  | .number token, s, rest, h => by
    obtain ⟨c, t, rfl, -⟩ := h.2.1.exists_cons
    exact lt_length_of_token h.1
  | .text body, s, rest, h => by
    have hquote := lt_length_of_token h.1
    rw [List.length_cons] at hquote
    omega
  | .list items, s, rest, ⟨r, hopen, hitems⟩ =>
    (Tree.length_lt_of_spellsItems hitems).trans (lt_length_of_skipSpaces hopen)
  | .object members, s, rest, ⟨r, hopen, hmembers⟩ =>
    (Tree.length_lt_of_spellsMembers hmembers).trans (lt_length_of_skipSpaces hopen)

theorem Tree.length_lt_of_spellsItems : ∀ {first : Bool} {items : List Tree} {s rest : List Char},
    Tree.SpellsItems first items s rest → rest.length < s.length
  | _, [], s, rest, h => lt_length_of_skipSpaces h
  | _, v :: items, s, rest, ⟨s', r, hgoes, hv, hitems⟩ => by
    have hle := hgoes.length_le
    have hlt := Tree.Spells.length_lt hv
    have hrest := Tree.length_lt_of_spellsItems hitems
    omega

theorem Tree.length_lt_of_spellsMembers : ∀ {first : Bool} {members : List (List Char × Tree)}
    {s rest : List Char}, Tree.SpellsMembers first members s rest → rest.length < s.length
  | _, [], s, rest, h => lt_length_of_skipSpaces h
  | _, (_, _) :: _, _, _, ⟨_, _, _, _, hgoes, hname, _, hcolon, hv, hmore⟩ => by
    have hle := hgoes.length_le
    have hquote := lt_length_of_skipSpaces hname
    have hbehind := lt_length_of_skipSpaces hcolon
    have hlt := Tree.Spells.length_lt hv
    have hrest := Tree.length_lt_of_spellsMembers hmore
    simp only [List.length_append, List.length_cons] at hquote
    omega

end

theorem skipHead_number {c : Char} {t : List Char} (h : skipSpaces s = c :: t)
    (hc : c = '-' ∨ Decimal.isDigit c) :
    skipHead s = (skipNumber (c :: t)).map fun r => (none, r) := by
  unfold skipHead
  rw [h]
  split
  case h_1 heq => cases heq
  case h_8 heq =>
    obtain ⟨rfl, rfl⟩ := List.cons.inj heq
    rw [if_pos hc]
  all_goals
    rename_i heq
    cases heq
    exact absurd hc (by decide)

/-- What is done behind a value: what ends there is closed, and the next value is skipped. -/
def skipRest (fuel : Nat) (around : List Bracket) (s : List Char) : Except Fault (List Char) :=
  match skipClosings around s with
  | .error e => .error e
  | .ok ([], r) => .ok r
  | .ok (b :: outer, r) =>
    match skipName b r with
    | .error e => .error e
    | .ok r' => skipOpen fuel (b :: outer) r'

section Skip

variable {out : List Char} {around : List Bracket}

theorem skipOpen_scalar {fuel : Nat} (h : skipHead s = .ok (none, rest)) :
    skipOpen (fuel + 1) around s = skipRest fuel around rest := by
  rw [skipOpen, h]
  rfl

theorem skipOpen_opening {fuel : Nat} {b : Bracket} {r r' : List Char}
    (hhead : skipHead s = .ok (some b, r)) (hopen : skipOpening b around r = .ok (b :: around, r'))
    {s' : List Char} (hname : skipName b r' = .ok s') :
    skipOpen (fuel + 1) around s = skipOpen fuel (b :: around) s' := by
  rw [skipOpen, hhead]
  simp only [hopen, hname]

theorem skipOpen_empty {fuel : Nat} {b : Bracket} {r : List Char}
    (hhead : skipHead s = .ok (some b, r))
    (hopen : skipOpening b around r = skipClosings around rest) :
    skipOpen (fuel + 1) around s = skipRest fuel around rest := by
  rw [skipOpen, hhead]
  simp only [hopen]
  rfl

/-- Behind a comma the next value is skipped. -/
theorem skipRest_comma {fuel : Nat} {b : Bracket} {r s' : List Char}
    (hcomma : skipSpaces s = ',' :: r) (hname : skipName b r = .ok s') :
    skipRest fuel (b :: around) s = skipOpen fuel (b :: around) s' := by
  have hclosings : skipClosings (b :: around) s = .ok (b :: around, r) := by
    unfold skipClosings
    rw [hcomma]
    cases b <;> rfl
  rw [skipRest, hclosings]
  simp only [hname]

/-- The sign that closes what a bracket opened. -/
def Bracket.close : Bracket → Char
  | .list => ']'
  | .object => '\x7d'

theorem skipRest_close {fuel : Nat} {b : Bracket} (hclose : skipSpaces s = b.close :: rest) :
    skipRest fuel (b :: around) s = skipRest fuel around rest := by
  have hclosings : skipClosings (b :: around) s = skipClosings around rest := by
    conv_lhs => unfold skipClosings
    rw [hclose]
    cases b <;> rfl
  rw [skipRest, hclosings]
  rfl

theorem skipOpening_close {b : Bracket} (hclose : skipSpaces s = b.close :: rest) :
    skipOpening b around s = skipClosings around rest := by
  unfold skipOpening
  rw [hclose]
  cases b <;> rfl

theorem readColon_eq {t : List Char} (h : skipSpaces s = ':' :: t) : readColon s = .ok t := by
  unfold readColon
  rw [h]
  rfl

theorem skipName_of_spells {name behind colon : List Char}
    (hname : skipSpaces s = '"' :: (name ++ '"' :: behind)) (hbody : IsBody name)
    (hcolon : skipSpaces behind = ':' :: colon) : skipName .object s = .ok colon := by
  unfold skipName
  simp only [hname, skipText_append hbody]
  exact readColon_eq hcolon

/-- A value that is no list or object. -/
def Tree.isScalar : Tree → Bool
  | .list _ | .object _ => false
  | _ => true

theorem Tree.Spells.skipHead_eq {v : Tree} (hscalar : v.isScalar) (h : v.Spells s rest) :
    skipHead s = .ok (none, rest) := by
  rcases v with _ | ⟨_ | _⟩ | token | body | items | members <;> simp only [Tree.Spells] at h
  · unfold skipHead
    rw [h]
    rfl
  · unfold skipHead
    rw [h]
    rfl
  · unfold skipHead
    rw [h]
    rfl
  · obtain ⟨hs, htoken, hrest⟩ := h
    have hskip := skipNumber_append htoken hrest
    obtain ⟨c, t, rfl, hc⟩ := htoken.exists_cons
    rw [List.cons_append] at hs hskip
    rw [skipHead_number hs hc, hskip]
    rfl
  · unfold skipHead
    simp only [h.1, skipText_append h.2]
    rfl
  · cases hscalar
  · cases hscalar

/-- A list or object that is not empty is gone into. -/
theorem skipOpening_of_startsValue {b : Bracket} (hstart : StartsValue (skipSpaces s))
    (hobject : b = .object → (skipSpaces s).head? = some '"') :
    skipOpening b around s = .ok (b :: around, skipSpaces s) := by
  obtain ⟨c, t, hs, -, hc⟩ := hstart
  rw [hs] at hobject ⊢
  unfold skipOpening
  rw [hs]
  cases b with
  | list => split <;> simp_all
  | object =>
    obtain rfl : c = '"' := Option.some.inj (hobject rfl)
    rfl

theorem skipOpen_of_scalar {v : Tree} (hscalar : v.isScalar) (h : v.Spells s rest)
    (hbehind : ∀ fuel, rest.length ≤ fuel → skipRest fuel around rest = .ok out) {fuel : Nat}
    (hfuel : s.length ≤ fuel + 1) : skipOpen (fuel + 1) around s = .ok out := by
  have hlt := h.length_lt
  rw [skipOpen_scalar (h.skipHead_eq hscalar)]
  exact hbehind fuel (by omega)

theorem skipHead_list {r : List Char} (h : skipSpaces s = '[' :: r) :
    skipHead s = .ok (some .list, r) := by
  unfold skipHead
  rw [h]
  rfl

theorem skipHead_object {r : List Char} (h : skipSpaces s = '\x7b' :: r) :
    skipHead s = .ok (some .object, r) := by
  unfold skipHead
  rw [h]
  rfl

mutual

/-- A value is skipped if it can be gone on behind it, whatever is open around it. -/
theorem Tree.Spells.skipOpen_eq : ∀ {v : Tree} {s rest : List Char} {around : List Bracket},
    v.Spells s rest → (∀ fuel, rest.length ≤ fuel → skipRest fuel around rest = .ok out) →
    ∀ fuel, s.length ≤ fuel → skipOpen fuel around s = .ok out
  | v, s, rest, around, h, hbehind, 0, hfuel => by
    have hlt := Tree.Spells.length_lt h
    omega
  | .null, _, _, _, h, hbehind, fuel + 1, hfuel => skipOpen_of_scalar rfl h hbehind hfuel
  | .boolean _, _, _, _, h, hbehind, fuel + 1, hfuel => skipOpen_of_scalar rfl h hbehind hfuel
  | .number _, _, _, _, h, hbehind, fuel + 1, hfuel => skipOpen_of_scalar rfl h hbehind hfuel
  | .text _, _, _, _, h, hbehind, fuel + 1, hfuel => skipOpen_of_scalar rfl h hbehind hfuel
  | .list [], s, rest, around, ⟨r, hopen, hitems⟩, hbehind, fuel + 1, hfuel => by
    have hlt := lt_length_of_skipSpaces hopen
    have hend := lt_length_of_skipSpaces hitems
    rw [skipOpen_empty (skipHead_list hopen) (skipOpening_close (b := .list) hitems)]
    exact hbehind fuel (by omega)
  | .list (v :: items), s, rest, around, ⟨r, hopen, s', r', hgoes, hv, hitems⟩, hbehind, fuel + 1,
      hfuel => by
    have hlt := lt_length_of_skipSpaces hopen
    have hle := length_skipSpaces_le r
    obtain rfl : s' = r := hgoes
    rw [skipOpen_opening (skipHead_list hopen) (skipOpening_of_startsValue hv.startsValue nofun)
      (by rfl : skipName .list (skipSpaces s') = .ok (skipSpaces s'))]
    exact Tree.Spells.skipOpen_eq (Tree.spells_skipSpaces.2 hv) (Tree.skipRest_items hitems hbehind)
      fuel (by omega)
  | .object [], s, rest, around, ⟨r, hopen, hmembers⟩, hbehind, fuel + 1, hfuel => by
    have hlt := lt_length_of_skipSpaces hopen
    have hend := lt_length_of_skipSpaces hmembers
    rw [skipOpen_empty (skipHead_object hopen) (skipOpening_close (b := .object) hmembers)]
    exact hbehind fuel (by omega)
  | .object ((name, v) :: members), s, rest, around,
      ⟨r, hopen, s', behind, colon, r', hgoes, hname, hbody, hcolon, hv, hmembers⟩, hbehind,
      fuel + 1, hfuel => by
    have hlt := lt_length_of_skipSpaces hopen
    obtain rfl : s' = r := hgoes
    have hquote := lt_length_of_token hname
    have hcolonLt := lt_length_of_skipSpaces hcolon
    rw [List.length_cons] at hquote
    have hstart : StartsValue (skipSpaces s') := ⟨_, _, hname, by decide, by decide⟩
    rw [skipOpen_opening (skipHead_object hopen)
      (skipOpening_of_startsValue hstart fun _ => by rw [hname]; rfl)
      (skipName_of_spells ((skipSpaces_skipSpaces s').trans hname) hbody hcolon)]
    exact Tree.Spells.skipOpen_eq hv (Tree.skipRest_members hmembers hbehind) fuel (by omega)

theorem Tree.skipRest_items : ∀ {items : List Tree} {s rest : List Char} {around : List Bracket},
    Tree.SpellsItems false items s rest →
    (∀ fuel, rest.length ≤ fuel → skipRest fuel around rest = .ok out) →
    ∀ fuel, s.length ≤ fuel → skipRest fuel (.list :: around) s = .ok out
  | [], s, rest, around, h, hbehind, fuel, hfuel => by
    have hlt := lt_length_of_skipSpaces h
    rw [skipRest_close (b := .list) h]
    exact hbehind fuel (by omega)
  | v :: items, s, rest, around, ⟨s', r, hgoes, hv, hitems⟩, hbehind, fuel, hfuel => by
    have hle := hgoes.length_le
    rw [skipRest_comma hgoes (by rfl : skipName .list s' = .ok s')]
    exact Tree.Spells.skipOpen_eq hv (Tree.skipRest_items hitems hbehind) fuel (by omega)

theorem Tree.skipRest_members : ∀ {members : List (List Char × Tree)} {s rest : List Char}
    {around : List Bracket}, Tree.SpellsMembers false members s rest →
    (∀ fuel, rest.length ≤ fuel → skipRest fuel around rest = .ok out) →
    ∀ fuel, s.length ≤ fuel → skipRest fuel (.object :: around) s = .ok out
  | [], s, rest, around, h, hbehind, fuel, hfuel => by
    have hlt := lt_length_of_skipSpaces h
    rw [skipRest_close (b := .object) h]
    exact hbehind fuel (by omega)
  | (name, v) :: members, s, rest, around,
      ⟨s', behind, colon, r, hgoes, hname, hbody, hcolon, hv, hmembers⟩, hbehind, fuel, hfuel => by
    have hle := hgoes.length_le
    have hquote := lt_length_of_token hname
    have hcolonLt := lt_length_of_skipSpaces hcolon
    rw [List.length_cons] at hquote
    rw [skipRest_comma hgoes (skipName_of_spells hname hbody hcolon)]
    exact Tree.Spells.skipOpen_eq hv (Tree.skipRest_members hmembers hbehind) fuel (by omega)

end

/-- A value is passed over up to its end. -/
theorem skipValue_of_spells {v : Tree} (h : v.Spells s rest) : skipValue s = .ok rest :=
  have hbehind : ∀ fuel, rest.length ≤ fuel → skipRest fuel [] rest = .ok rest := fun _ _ => rfl
  h.skipOpen_eq hbehind _ (Nat.le_succ _)

end Skip

end Json

end Bistro
