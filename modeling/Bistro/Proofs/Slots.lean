import Bistro.Proofs.Reading

/-!
# Slots

While a record is read, each of its fields has a slot, and the first member of its name goes there.
A second one is a fault. When all members were read, the slots hold what the record takes from the
members as a whole (`Fields.complete_iff`), and the members of other names are left
(`Fields.foldlM_gather_iff`).
-/

namespace Bistro

theorem bind_eq_ok_iff {ε α β : Type} {x : Except ε α} {f : α → Except ε β} {b : β} :
    x.bind f = .ok b ↔ ∃ a, x = .ok a ∧ f a = .ok b := by
  cases x <;> simp [Except.bind]

namespace Fields

/-- Puts a member into the slot of its name, unless no field has this name. A slot takes one value,
and only one that fits. -/
def fill : (fields : Fields) → fields.Slots → String × Json → Option (Option fields.Slots)
  | .nil, _, _ => none
  | .cons name _ shape rest, (slot, slots), m =>
    if m.1 = name then
      some (if slot.isSome then none else (shape.fit m.2).map fun v => (some v, slots))
    else (rest.fill slots m).map fun filled => filled.map fun slots' => (slot, slots')

/-- Puts a member into its slot, or in front of those that have none. -/
def gather (fields : Fields) (state : fields.Slots × List (String × Json)) (m : String × Json) :
    Option (fields.Slots × List (String × Json)) :=
  match fields.fill state.1 m with
  | some filled => filled.map fun slots => (slots, state.2)
  | none => some (state.1, m :: state.2)

/-- What members have made of the slots. -/
def Filled : (fields : Fields) → fields.Slots → List (String × Json) → fields.Slots → Prop
  | .nil, _, _, _ => True
  | .cons name _ shape rest, (slot, slots), members, (slot', slots') =>
    ((name ∉ members.map Prod.fst ∧ slot' = slot) ∨
      (slot = none ∧ ∃ x v, Once members name x ∧ shape.fit x = some v ∧ slot' = some v)) ∧
    rest.Filled slots members slots'

/-- Whether all fields are scalars. -/
def allScalars : Fields → Bool
  | .nil => true
  | .cons _ _ shape rest => shape.isScalar && rest.allScalars

section Cons

variable {name : String} {required : Bool} {shape : Shape} {rest : Fields}
  {slot : Option shape.Value} {slots : rest.Slots}

theorem fill_cons (m : String × Json) :
    (cons name required shape rest).fill (slot, slots) m =
      if m.1 = name then
        some (if slot.isSome then none else (shape.fit m.2).map fun v => (some v, slots))
      else (rest.fill slots m).map fun filled => filled.map fun slots' => (slot, slots') :=
  rfl

theorem readMember_cons (levels : Nat) (field : String) (s : List Char) :
    (cons name required shape rest).readMember levels (slot, slots) field s =
      if field = name then
        some (if slot.isSome then .error (.behind '\x7d' (.duplicateField name) s)
          else ((Json.readColon s).bind (shape.read levels)).map fun x => ((some x.1, slots), x.2))
      else (rest.readMember levels slots field s).map fun r => r.map fun x => ((slot, x.1), x.2) := by
  cases slot <;> rfl

end Cons

theorem fill_eq_none_iff :
    ∀ {fields : Fields} {slots : fields.Slots} {m : String × Json},
      fields.fill slots m = none ↔ m.1 ∉ fields.names
  | .nil, _, m => by simp [fill, names]
  | .cons name _ shape rest, (slot, slots), m => by
    rw [fill_cons, names, List.mem_cons, not_or]
    split_ifs with hname
    · simp [hname]
    · rw [and_iff_right hname]
      exact Option.map_eq_none_iff.trans fill_eq_none_iff

theorem readMember_eq_none_iff {levels : Nat} {name : String} {s : List Char} :
    ∀ {fields : Fields} {slots : fields.Slots},
      fields.readMember levels slots name s = none ↔ name ∉ fields.names
  | .nil, _ => by simp [readMember, names]
  | .cons field _ shape rest, (slot, slots) => by
    rw [readMember_cons, names, List.mem_cons, not_or]
    split_ifs with hname
    · simp [hname]
    · rw [and_iff_right hname]
      exact Option.map_eq_none_iff.trans readMember_eq_none_iff

/-- A member is read into its slot as its value is put there. -/
theorem readMember_iff {levels : Nat} {inner : Option (Json.Reader Json)} {name : String}
    {s rest : List Char} :
    ∀ {fields : Fields} (_ : fields.allScalars) {slots slots' : fields.Slots},
      fields.readMember levels slots name s = some (.ok (slots', rest)) ↔
        ∃ v, Json.readMemberValue (Json.readWith inner) s = .ok (v, rest) ∧
          fields.fill slots (name, v) = some (some slots')
  | .nil, _, _, _ => by simp [readMember, fill]
  | .cons field _ shape fields, hscalars, (slot, slots), (slot', slots') => by
    simp only [allScalars, Bool.and_eq_true] at hscalars
    simp only [readMember_cons, fill_cons]
    split_ifs with hname hslot
    · exact ⟨nofun, nofun⟩
    · constructor
      · intro h
        obtain ⟨⟨x, rest₁⟩, hbind, hx⟩ := map_eq_ok_iff.1 (Option.some_inj.1 h)
        cases hx
        obtain ⟨s', hcolon, hread⟩ := bind_eq_ok_iff.1 hbind
        obtain ⟨v, hv, hfit⟩ := (Shape.read_scalar_iff hscalars.1).1 hread
        exact ⟨v, bind_eq_ok_iff.2 ⟨s', hcolon, hv⟩,
          congrArg some (Option.map_eq_some_iff.2 ⟨x, hfit, rfl⟩)⟩
      · rintro ⟨v, hv, h⟩
        obtain ⟨x, hfit, hx⟩ := Option.map_eq_some_iff.1 (Option.some_inj.1 h)
        cases hx
        obtain ⟨s', hcolon, hv⟩ := bind_eq_ok_iff.1 hv
        exact congrArg some (map_eq_ok_iff.2 ⟨(x, rest), bind_eq_ok_iff.2 ⟨s', hcolon,
          (Shape.read_scalar_iff hscalars.1).2 ⟨v, hv, hfit⟩⟩, rfl⟩)
    · constructor
      · intro h
        obtain ⟨r, hread, hr⟩ := Option.map_eq_some_iff.1 h
        obtain ⟨⟨slots₁, rest₁⟩, rfl, hslots⟩ := map_eq_ok_iff.1 hr
        cases hslots
        obtain ⟨v, hv, hfill⟩ := (readMember_iff hscalars.2).1 hread
        exact ⟨v, hv, Option.map_eq_some_iff.2 ⟨_, hfill, rfl⟩⟩
      · rintro ⟨v, hv, h⟩
        obtain ⟨filled, hfill, hfilled⟩ := Option.map_eq_some_iff.1 h
        obtain ⟨slots₁, rfl, hslots⟩ := Option.map_eq_some_iff.1 hfilled
        cases hslots
        exact Option.map_eq_some_iff.2
          ⟨_, (readMember_iff hscalars.2).2 ⟨v, hv, hfill⟩, map_eq_ok_iff.2 ⟨_, rfl, rfl⟩⟩

theorem once_nil {name : String} {x : Json} : ¬ Once [] name x := nofun

theorem filled_nil_iff :
    ∀ {fields : Fields} {slots slots' : fields.Slots},
      fields.Filled slots [] slots' ↔ slots' = slots
  | .nil, _, _ => iff_of_true trivial rfl
  | .cons name _ shape fields, (slot, slots), (slot', slots') => by
    rw [Filled, filled_nil_iff]
    simp only [List.map_nil, List.not_mem_nil, not_false_eq_true, true_and, once_nil, false_and,
      exists_false, and_false, or_false]
    exact ⟨fun ⟨h, h'⟩ => h ▸ h' ▸ rfl, fun h => ⟨congrArg Prod.fst h, congrArg Prod.snd h⟩⟩

theorem once_cons_iff {m : String × Json} {members : List (String × Json)} {name : String}
    {x : Json} :
    Once (m :: members) name x ↔
      (m.1 = name ∧ m.2 = x ∧ name ∉ members.map Prod.fst) ∨ (m.1 ≠ name ∧ Once members name x) := by
  unfold Once
  rw [List.filter_cons]
  split_ifs with h
  · have hname : m.1 = name := of_decide_eq_true h
    rw [List.cons.injEq, filter_name_eq_nil, Prod.ext_iff]
    simp [hname]
  · have hname : m.1 ≠ name := fun heq => h (decide_eq_true heq)
    simp [hname]

/-- A member of another name makes no difference. -/
theorem filled_cons_of_notMem {m : String × Json} {members : List (String × Json)} :
    ∀ {fields : Fields} {slots slots' : fields.Slots}, m.1 ∉ fields.names →
      (fields.Filled slots (m :: members) slots' ↔ fields.Filled slots members slots')
  | .nil, _, _, _ => Iff.rfl
  | .cons name _ shape fields, (slot, slots), (slot', slots'), h => by
    simp only [names, List.mem_cons, not_or] at h
    rw [Filled, Filled, filled_cons_of_notMem h.2]
    simp [once_cons_iff, h.1, Ne.symm h.1]

/-- The first member is put into its slot, the others are put there behind it. -/
theorem filled_cons_iff {m : String × Json} {members : List (String × Json)} :
    ∀ {fields : Fields} {slots slots' : fields.Slots}, fields.names.Nodup → m.1 ∈ fields.names →
      (fields.Filled slots (m :: members) slots' ↔
        ∃ slots₁, fields.fill slots m = some (some slots₁) ∧ fields.Filled slots₁ members slots')
  | .nil, _, _, _, h => by cases h
  | .cons name _ shape fields, (slot, slots), (slot', slots'), hn, h => by
    obtain ⟨hname, hn⟩ := List.nodup_cons.1 hn
    rw [fill_cons, Filled]
    by_cases heq : m.1 = name
    · rw [filled_cons_of_notMem (heq ▸ hname), if_pos heq]
      constructor
      · rintro ⟨⟨hno, -⟩ | ⟨rfl, x, v, honce, hfit, rfl⟩, hrest⟩
        · exact absurd (List.mem_map_of_mem List.mem_cons_self) (heq ▸ hno)
        · obtain ⟨-, rfl, hno⟩ | ⟨hne, -⟩ := once_cons_iff.1 honce
          · exact ⟨(some v, slots), congrArg some (Option.map_eq_some_iff.2 ⟨v, hfit, rfl⟩),
              .inl ⟨hno, rfl⟩, hrest⟩
          · exact absurd heq hne
      · rintro ⟨slots₁, hfill, hfilled⟩
        rcases slot with _ | x
        · obtain ⟨v, hfit, hslots⟩ := Option.map_eq_some_iff.1 (Option.some_inj.1 hfill)
          cases hslots
          obtain ⟨⟨hno, rfl⟩ | ⟨⟨⟩, -⟩, hrest⟩ := hfilled
          exact ⟨.inr ⟨rfl, m.2, v, once_cons_iff.2 (.inl ⟨heq, rfl, hno⟩), hfit, rfl⟩, hrest⟩
        · cases Option.some_inj.1 hfill
    · have hin : m.1 ∈ fields.names := (List.mem_cons.1 h).resolve_left heq
      rw [filled_cons_iff hn hin, if_neg heq]
      have hslot : ((name ∉ (m :: members).map Prod.fst ∧ slot' = slot) ∨ (slot = none ∧
          ∃ x v, Once (m :: members) name x ∧ shape.fit x = some v ∧ slot' = some v)) ↔
          ((name ∉ members.map Prod.fst ∧ slot' = slot) ∨ (slot = none ∧
          ∃ x v, Once members name x ∧ shape.fit x = some v ∧ slot' = some v)) := by
        simp [once_cons_iff, heq, Ne.symm heq]
      rw [hslot]
      constructor
      · rintro ⟨hone, slots₁, hfill, hrest⟩
        exact ⟨(slot, slots₁), Option.map_eq_some_iff.2 ⟨_, hfill, rfl⟩, hone, hrest⟩
      · rintro ⟨slots₁, hfill, hfilled⟩
        obtain ⟨filled, hrest, hmap⟩ := Option.map_eq_some_iff.1 hfill
        obtain ⟨slots₂, rfl, hslots⟩ := Option.map_eq_some_iff.1 hmap
        cases hslots
        exact ⟨hfilled.1, slots₂, hrest, hfilled.2⟩

/-- What is gathered from members: what they make of the slots, and those of other names, the last
one first. -/
theorem foldlM_gather_iff {fields : Fields} (hn : fields.names.Nodup) :
    ∀ {members extra extra' : List (String × Json)} {slots slots' : fields.Slots},
      members.foldlM fields.gather (slots, extra) = some (slots', extra') ↔
        fields.Filled slots members slots' ∧
          extra' = (members.filter fun m => m.1 ∉ fields.names).reverse ++ extra
  | [], extra, extra', slots, slots' => by
    simp [filled_nil_iff, eq_comm]
  | m :: members, extra, extra', slots, slots' => by
    rw [List.foldlM_cons, gather]
    by_cases hname : m.1 ∈ fields.names
    · rw [filled_cons_iff hn hname]
      have hfilter : (m :: members).filter (fun m => m.1 ∉ fields.names) =
          members.filter fun m => m.1 ∉ fields.names := List.filter_cons_of_neg (by simpa using hname)
      rw [hfilter]
      constructor
      · intro h
        obtain ⟨⟨slots₁, extra₁⟩, hput, hfold⟩ := Option.bind_eq_some_iff.1 h
        rcases hfill : fields.fill slots m with _ | filled
        · exact absurd hname (fill_eq_none_iff.1 hfill)
        · rw [hfill] at hput
          obtain ⟨slots₂, rfl, hslots⟩ := Option.map_eq_some_iff.1 hput
          cases hslots
          obtain ⟨hfilled, hextra⟩ := (foldlM_gather_iff hn).1 hfold
          exact ⟨⟨slots₁, rfl, hfilled⟩, hextra⟩
      · rintro ⟨⟨slots₁, hfill, hfilled⟩, hextra⟩
        rw [hfill]
        exact (foldlM_gather_iff hn).2 ⟨hfilled, hextra⟩
    · rw [filled_cons_of_notMem hname, fill_eq_none_iff.2 hname]
      have hfilter : (m :: members).filter (fun m => m.1 ∉ fields.names) =
          m :: members.filter fun m => m.1 ∉ fields.names := List.filter_cons_of_pos (by simpa using hname)
      rw [hfilter, List.reverse_cons, List.append_assoc, List.singleton_append]
      exact foldlM_gather_iff hn

theorem complete_cons_iff {name : String} {required : Bool} {shape : Shape} {rest : Fields}
    {slot : Option shape.Value} {slots : rest.Slots} {v : shape.Value} {row : rest.Row} :
    (cons name required shape rest).complete (slot, slots) = .ok (v, row) ↔
      (slot = some v ∨ (slot = none ∧ required = false ∧ v = shape.empty)) ∧
        rest.complete slots = .ok row := by
  have hmap : ∀ v', (rest.complete slots).map (fun row => (v', row)) = .ok (v, row) ↔
      v' = v ∧ rest.complete slots = .ok row := fun v' => by
    rw [map_eq_ok_iff]
    grind
  rcases slot with _ | v'
  · cases required with
    | true => exact ⟨nofun, fun h => h.1.elim nofun nofun⟩
    | false =>
      refine (hmap _).trans (and_congr_left' ?_)
      simp [eq_comm]
  · refine (hmap _).trans (and_congr_left' ?_)
    simp

/-- The slots hold what the record takes from the members as a whole. -/
theorem complete_iff {members : List (String × Json)} :
    ∀ {fields : Fields} {row : fields.Row},
      (∃ slots, fields.Filled fields.noSlots members slots ∧ fields.complete slots = .ok row) ↔
        fields.fitMembers members = some row
  | .nil, row => iff_of_true ⟨(), trivial, rfl⟩ rfl
  | .cons name required shape fields, (v, row) => by
    refine Iff.trans ?_ fitMembers_cons_iff.symm
    constructor
    · rintro ⟨⟨slot, slots⟩, ⟨hslot, hfilled⟩, hcomplete⟩
      obtain ⟨hv, hrow⟩ := complete_cons_iff.1 hcomplete
      refine ⟨?_, complete_iff.1 ⟨slots, hfilled, hrow⟩⟩
      rcases hslot with ⟨hno, rfl⟩ | ⟨-, x, v', honce, hfit, rfl⟩
      · rcases hv with hv | ⟨-, hrequired, rfl⟩
        · cases hv
        · exact .inr ⟨hrequired, hno, rfl⟩
      · rcases hv with hv | ⟨hv, -⟩
        · cases hv
          exact .inl ⟨x, honce, hfit⟩
        · cases hv
    · rintro ⟨⟨x, honce, hfit⟩ | ⟨hrequired, hno, rfl⟩, hfits⟩
      · obtain ⟨slots, hfilled, hrow⟩ := complete_iff.2 hfits
        exact ⟨(some v, slots), ⟨.inr ⟨rfl, x, v, honce, hfit, rfl⟩, hfilled⟩,
          complete_cons_iff.2 ⟨.inl rfl, hrow⟩⟩
      · obtain ⟨slots, hfilled, hrow⟩ := complete_iff.2 hfits
        exact ⟨(none, slots), ⟨.inl ⟨hno, rfl⟩, hfilled⟩,
          complete_cons_iff.2 ⟨.inr ⟨rfl, hrequired, rfl⟩, hrow⟩⟩

end Fields

end Bistro
