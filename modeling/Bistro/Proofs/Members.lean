import Bistro.Json.Shape

/-!
# Members that are passed over

A record looks only for the members that have the names of its fields; every other member has to be
well formed, but its value is passed over. So a record is read from an object that has no member of
such a name just as from an empty one (`read_record_of_names`).
-/

namespace Bistro

namespace Json

/-- Notes the name of a member and passes over its value. -/
def noteName (names : List String) (name : String) : Reader (List String) := fun s =>
  ((readColon s).bind skipValue).map fun rest => (name :: names, rest)

/-- Reads an object for the names of its members, the last one first. -/
def readNames : Reader (List String) := fun s =>
  match skipSpaces s with
  | '\x7b' :: rest =>
    match readMembersWith noteName (rest.length + 1) true [] rest with
    | .error e => .error e
    | .ok (names, r) => (closeObject r).map fun r' => (names, r')
  | r => .error (wrongTypeFault "an object" r)

theorem noteName_eq_ok {names state : List String} {name : String} {s rest : List Char}
    (h : noteName names name s = .ok (state, rest)) :
    state = name :: names ∧ (readColon s).bind skipValue = .ok rest := by
  unfold noteName at h
  rcases hskip : (readColon s).bind skipValue with e | r
  · rw [hskip] at h
    cases h
  · rw [hskip] at h
    cases h
    exact ⟨rfl, rfl⟩

theorem subset_of_noteName :
    ∀ (fuel : Nat) (first : Bool) (names names' : List String) (s rest : List Char),
      readMembersWith noteName fuel first names s = .ok (names', rest) → names ⊆ names'
  | 0, _, _, _, _, _, h => by cases h
  | fuel + 1, first, names, names', s, rest, h => by
    rw [readMembersWith] at h
    split at h
    · cases h
    · cases h
      exact List.Subset.refl _
    · split at h
      · cases h
      · rename_i name s'' _
        split at h
        · cases h
        · rename_i state r hnote
          obtain ⟨rfl, -⟩ := noteName_eq_ok hnote
          have ih := subset_of_noteName fuel false _ _ _ _ h
          exact fun field hfield => ih (List.mem_cons_of_mem _ hfield)

/-- A reader that passes over the members of these names ends where the names do. -/
theorem readMembersWith_of_noteName {τ : Type} (member : τ → String → Reader τ) (state : τ)
    (other : String → Prop)
    (hmember : ∀ name s, other name →
      member state name s = ((readColon s).bind skipValue).map fun rest => (state, rest)) :
    ∀ (fuel : Nat) (first : Bool) (names names' : List String) (s rest : List Char),
      readMembersWith noteName fuel first names s = .ok (names', rest) →
      (∀ name ∈ names', other name) →
      readMembersWith member fuel first state s = .ok (state, rest)
  | 0, _, _, _, _, _, h, _ => by cases h
  | fuel + 1, first, names, names', s, rest, h, hother => by
    rw [readMembersWith] at h ⊢
    split at h
    · cases h
    · cases h
      simp only [*]
    · split at h
      · cases h
      · rename_i name s'' _
        split at h
        · cases h
        · rename_i noted r hnote
          obtain ⟨rfl, hskip⟩ := noteName_eq_ok hnote
          have hin : name ∈ names' :=
            subset_of_noteName fuel false _ _ _ _ h (List.mem_cons_self ..)
          have ih := readMembersWith_of_noteName member state other hmember fuel false _ _ _ _ h
            hother
          simp only [hmember name s'' (hother name hin), hskip]
          exact ih

/-- A record whose fields need not be there is read from an object without them. -/
theorem read_record_of_names (name : String) {fields : Fields} {row : fields.Row} {levels : Nat}
    (hlevels : levels ≠ 0) (hrow : fields.complete fields.noSlots = .ok row)
    {s rest : List Char} {names : List String} (h : readNames s = .ok (names, rest))
    (hnames : ∀ field ∈ names, ∀ r,
      fields.readMember (levels - 1) fields.noSlots field r = none) :
    (Shape.record name fields).read levels s = .ok (row, rest) := by
  unfold readNames at h
  rw [Shape.read]
  split at h
  · rename_i r hs
    split at h
    · cases h
    · rename_i names' r' hmembers
      rcases hclose : closeObject r' with e | r''
      · simp only [hclose] at h
        cases h
      · simp only [hclose] at h
        cases h
        have hread := readMembersWith_of_noteName
          (fun slots field r => (fields.readMember (levels - 1) slots field r).getD
            (((readColon r).bind skipValue).map fun r' => (slots, r')))
          fields.noSlots
          (fun field => ∀ r, fields.readMember (levels - 1) fields.noSlots field r = none)
          (by intro field s hfield; simp only [hfield s, Option.getD_none])
          _ _ _ _ _ _ hmembers hnames
        simp only [hs, hlevels, if_false, hread, hrow, hclose]
        rfl
  · cases h

end Json

end Bistro
