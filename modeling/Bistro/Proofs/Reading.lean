import Bistro.Proofs.Fitting

/-!
# What is read from a text and what from its value

Reading a model from a text is compared with reading the text as a value and taking the model from
that: scalars (`Shape.read_scalar_iff`), and the members of an object, whatever is gathered from
them (`Json.readMembersWith_iff`).
-/

namespace Bistro

theorem map_eq_ok_iff {ε α β : Type} {x : Except ε α} {f : α → β} {b : β} :
    x.map f = .ok b ↔ ∃ a, x = .ok a ∧ f a = b := by
  cases x <;> simp [Except.map]

theorem map_eq_error_iff {ε α β : Type} {x : Except ε α} {f : α → β} {e : ε} :
    x.map f = .error e ↔ x = .error e := by
  cases x <;> simp [Except.map]

namespace Json

variable {α : Type}

theorem finish_eq_ok_iff {text rest : List Char} {a b : α} :
    finish text rest a = .ok b ↔ a = b ∧ skipSpaces rest = [] := by
  unfold finish
  split
  · rename_i h
    simp [h]
  · rename_i hne
    simp only [reduceCtorEq, false_iff]
    exact fun h => hne h.2

/-- A whole text is read if only blanks follow what is read from its beginning. -/
theorem readAll_eq_ok_iff {reader : Reader α} {text : String} {a : α} :
    readAll reader text = .ok a ↔
      ∃ rest, reader text.toList = .ok (a, rest) ∧ skipSpaces rest = [] := by
  unfold readAll
  dsimp only
  split
  · rename_i h
    simp [h]
  · rename_i h
    simp only [h, finish_eq_ok_iff, Except.ok.injEq, Prod.mk.injEq]
    constructor
    · rintro ⟨rfl, hrest⟩
      exact ⟨_, ⟨rfl, rfl⟩, hrest⟩
    · rintro ⟨rest, ⟨rfl, rfl⟩, hrest⟩
      exact ⟨rfl, hrest⟩

theorem readValue_eq_readWith (levels : Nat) : ∃ inner, readValue levels = readWith inner := by
  cases levels with
  | zero => exact ⟨none, rfl⟩
  | succ levels => exact ⟨some (readValue levels), rfl⟩

variable {inner : Option (Reader Json)} {s rest : List Char}

theorem readWith_eq_text_iff {t : String} :
    readWith inner s = .ok (.text t, rest) ↔ readTextValue s = .ok (t, rest) := by
  unfold readWith readTextValue
  split
  case h_6 | h_7 => rename_i h; cases inner <;> simp [h, map_eq_ok_iff]
  case h_8 => split <;> simp_all [map_eq_ok_iff]
  all_goals rename_i h; simp [h, map_eq_ok_iff]

theorem readWith_eq_boolean_iff {b : Bool} :
    readWith inner s = .ok (.boolean b, rest) ↔ readBoolean s = .ok (b, rest) := by
  unfold readWith readBoolean
  split
  case h_6 | h_7 => rename_i h; cases inner <;> simp [h, map_eq_ok_iff]
  case h_8 => split <;> simp_all [map_eq_ok_iff]
  all_goals rename_i h; simp [h, map_eq_ok_iff]

/-- Whether a number begins a text. -/
def startsNumber : List Char → Bool
  | c :: _ => c == '-' || Decimal.isDigit c
  | [] => false

theorem readWith_eq_number_iff {x : Number} :
    readWith inner s = .ok (.number x, rest) ↔
      startsNumber (skipSpaces s) ∧ readNumber (skipSpaces s) = .ok (x, rest) := by
  unfold readWith startsNumber
  split
  case h_6 | h_7 => rename_i h; cases inner <;> simp +decide [h, map_eq_ok_iff]
  case h_8 => split <;> simp_all [map_eq_ok_iff]
  all_goals rename_i h; simp +decide [h, map_eq_ok_iff]

theorem readInteger_eq (lo hi : Int) (type : String) (s : List Char) :
    readInteger lo hi type s =
      if startsNumber (skipSpaces s) then
        match readNumber (skipSpaces s) with
        | .error e => .error e
        | .ok (.integer z, rest) =>
          if lo ≤ z ∧ z ≤ hi then .ok (z, rest)
          else .error (.before (.wrongValue (.number (.integer z)) type) rest)
        | .ok (.double d, rest) => .error (.before (.wrongType (.number (.double d)) type) rest)
      else .error (wrongTypeFault type (skipSpaces s)) :=
  rfl

theorem readInt32Value_iff {n : Int32} :
    readInt32Value s = .ok (n, rest) ↔ readWith inner s = .ok (Json.int32 n, rest) := by
  rw [Json.int32, readWith_eq_number_iff, readInt32Value, map_eq_ok_iff, readInteger_eq]
  split_ifs with hnumber
  · rcases readNumber (skipSpaces s) with e | ⟨z | d, r⟩
    · simp
    · simp only [hnumber, true_and, Except.ok.injEq, Prod.mk.injEq, Number.integer.injEq]
      rw [← int32_iff]
      split_ifs with hz <;> simp [hz]
    · simp
  · simp [hnumber]

theorem readWith_eq_object_iff {value : Reader Json} {members : List (String × Json)} :
    readWith (some value) s = .ok (.object members, rest) ↔
      ∃ r, skipSpaces s = '\x7b' :: r ∧ readMembers value r = .ok (members, rest) := by
  unfold readWith
  split
  case h_8 => split <;> simp_all [map_eq_ok_iff]
  all_goals rename_i h; simp [h, map_eq_ok_iff]

end Json

/-- Whether a shape is that of a text, a truth value or an integer. -/
def Shape.isScalar : Shape → Bool
  | .text | .boolean | .integer => true
  | _ => false

namespace Shape

variable {shape : Shape} {levels : Nat} {inner : Option (Json.Reader Json)} {s rest : List Char}
  {x : shape.Value}

theorem read_iff_of_json {json : shape.Value → Json}
    (hfit : ∀ v x, shape.fit v = some x ↔ v = json x)
    (hread : shape.read levels s = .ok (x, rest) ↔ Json.readWith inner s = .ok (json x, rest)) :
    shape.read levels s = .ok (x, rest) ↔
      ∃ v, Json.readWith inner s = .ok (v, rest) ∧ shape.fit v = some x := by
  simp only [hfit, exists_eq_right]
  exact hread

/-- A scalar is read from a text as it is taken from the value in front of it. -/
theorem read_scalar_iff (h : shape.isScalar) :
    shape.read levels s = .ok (x, rest) ↔
      ∃ v, Json.readWith inner s = .ok (v, rest) ∧ shape.fit v = some x := by
  cases shape with
  | text => exact read_iff_of_json (fun _ _ => fit_text_iff) Json.readWith_eq_text_iff.symm
  | boolean =>
    exact read_iff_of_json (fun _ _ => fit_boolean_iff) Json.readWith_eq_boolean_iff.symm
  | integer => exact read_iff_of_json (fun _ _ => fit_integer_iff) Json.readInt32Value_iff
  | list item => cases h
  | record name fields => cases h

end Shape

namespace Json

variable {σ : Type}

/-- Notes a member with its value, in front of those noted before. -/
def noteMember (value : Reader Json) (done : List (String × Json)) (name : String) :
    Reader (List (String × Json)) := fun s =>
  (readMemberValue value s).map fun x => ((name, x.1) :: done, x.2)

theorem readMembers_iff {value : Reader Json} {s rest : List Char}
    {members : List (String × Json)} :
    readMembers value s = .ok (members, rest) ↔
      ∃ r, readMembersWith (noteMember value) (s.length + 1) true [] s =
          .ok (members.reverse, r) ∧ closeObject r = .ok rest := by
  unfold readMembers noteMember
  split
  · rename_i h
    simp [h]
  · rename_i done r h
    simp only [h, map_eq_ok_iff, Except.ok.injEq, Prod.mk.injEq]
    constructor
    · rintro ⟨r', hclose, rfl, rfl⟩
      exact ⟨r, ⟨(List.reverse_reverse done).symm, rfl⟩, hclose⟩
    · rintro ⟨r', ⟨rfl, rfl⟩, hclose⟩
      exact ⟨rest, hclose, List.reverse_reverse members, rfl⟩

/-- The loop over members ends where there is no further name, or goes on behind a member. -/
theorem readMembersWith_succ_iff {member : σ → String → Reader σ} {fuel : Nat} {first : Bool}
    {state state' : σ} {s rest : List Char} :
    readMembersWith member (fuel + 1) first state s = .ok (state', rest) ↔
      (nextName first s = .ok none ∧ state = state' ∧ s = rest) ∨
        ∃ s' name s'' state'' r, nextName first s = .ok (some s') ∧ readText s' = .ok (name, s'') ∧
          member state name s'' = .ok (state'', r) ∧
          readMembersWith member fuel false state'' r = .ok (state', rest) := by
  rw [readMembersWith]
  split
  · rename_i h
    simp [h]
  · rename_i h
    simp [h]
  · rename_i s' h
    simp only [h, reduceCtorEq, Except.ok.injEq, Option.some.injEq, false_and, false_or]
    split
    · rename_i hname
      grind
    · rename_i name s'' hname
      split
      · rename_i hmember
        grind
      · rename_i hmember
        grind

/-- The members that are noted stand in front of those noted before. -/
theorem exists_noted {value : Reader Json} :
    ∀ (fuel : Nat) (first : Bool) (done noted : List (String × Json)) (s rest : List Char),
      readMembersWith (noteMember value) fuel first done s = .ok (noted, rest) →
      ∃ members : List (String × Json), noted = members.reverse ++ done
  | 0, _, _, _, _, _, h => by cases h
  | fuel + 1, first, done, noted, s, rest, h => by
    rcases readMembersWith_succ_iff.1 h with ⟨-, rfl, -⟩ | ⟨s', name, s'', state, r, -, -, hnote, h⟩
    · exact ⟨[], rfl⟩
    · obtain ⟨⟨v, r'⟩, -, hnoted⟩ := map_eq_ok_iff.1 hnote
      cases hnoted
      obtain ⟨members, rfl⟩ := exists_noted fuel _ _ _ _ _ h
      exact ⟨(name, v) :: members, by simp⟩

/-- What is gathered from the members of an object while they are read is what is gathered from them
afterwards, if this is so for each member. -/
theorem readMembersWith_iff {value : Reader Json} {member : σ → String → Reader σ}
    {put : σ → String × Json → Option σ}
    (hmember : ∀ state name s state' rest, member state name s = .ok (state', rest) ↔
      ∃ v, readMemberValue value s = .ok (v, rest) ∧ put state (name, v) = some state') :
    ∀ (fuel : Nat) (first : Bool) (state state' : σ) (done : List (String × Json))
      (s rest : List Char),
      readMembersWith member fuel first state s = .ok (state', rest) ↔
        ∃ members : List (String × Json),
          readMembersWith (noteMember value) fuel first done s =
            .ok (members.reverse ++ done, rest) ∧
          members.foldlM put state = some state'
  | 0, _, _, _, _, _, _ => by simp [readMembersWith]
  | fuel + 1, first, state, state', done, s, rest => by
    constructor
    · intro h
      rcases readMembersWith_succ_iff.1 h with ⟨hend, rfl, rfl⟩ |
        ⟨s', name, s'', state₁, r, hnext, hname, hone, hrest⟩
      · exact ⟨[], readMembersWith_succ_iff.2 (.inl ⟨hend, rfl, rfl⟩), rfl⟩
      · obtain ⟨v, hv, hput⟩ := (hmember _ _ _ _ _).1 hone
        obtain ⟨members, hnoted, hfold⟩ := (readMembersWith_iff hmember fuel false state₁ state'
          ((name, v) :: done) r rest).1 hrest
        refine ⟨(name, v) :: members, readMembersWith_succ_iff.2 (.inr ⟨s', name, s'', _, r, hnext,
          hname, map_eq_ok_iff.2 ⟨_, hv, rfl⟩, ?_⟩), ?_⟩
        · simpa using hnoted
        · simpa [hput] using hfold
    · rintro ⟨members, hnoted, hfold⟩
      rcases readMembersWith_succ_iff.1 hnoted with ⟨hend, hnone, rfl⟩ |
        ⟨s', name, s'', done₁, _, hnext, hname, hone, hrest⟩
      · obtain rfl : members = [] := by simpa using hnone
        cases hfold
        exact readMembersWith_succ_iff.2 (.inl ⟨hend, rfl, rfl⟩)
      · obtain ⟨⟨v, r⟩, hv, hdone⟩ := map_eq_ok_iff.1 hone
        cases hdone
        obtain ⟨members', hmembers⟩ := exists_noted fuel _ _ _ _ _ hrest
        obtain rfl : members = (name, v) :: members' := by
          rw [List.append_cons, List.append_cancel_right_eq, ← List.reverse_cons] at hmembers
          exact List.reverse_injective hmembers
        rw [List.foldlM_cons] at hfold
        obtain ⟨state₁, hput, hfold⟩ := Option.bind_eq_some_iff.1 hfold
        refine readMembersWith_succ_iff.2 (.inr ⟨s', name, s'', state₁, r, hnext, hname,
          (hmember _ _ _ _ _).2 ⟨v, hv, hput⟩, ?_⟩)
        exact (readMembersWith_iff hmember fuel false state₁ state' ((name, v) :: done) r rest).2
          ⟨members', by rw [hrest, List.reverse_cons, List.append_assoc, List.singleton_append], hfold⟩

end Json

end Bistro
