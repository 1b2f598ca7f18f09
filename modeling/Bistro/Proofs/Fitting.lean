import Bistro.Model.Record
import Mathlib.Data.List.Forall2

/-!
# What fits a shape

A scalar fits a shape if it is of its type, and a record takes each field from the one member of its
name (`Fields.fitMembers_cons_iff`) or from the next item of a list (`Fields.fitItems_cons_iff`).
-/

namespace Bistro

variable {members : List (String × Json)} {name : String}

/-- Whether members have exactly one of a name, and its value. -/
def Once (members : List (String × Json)) (name : String) (v : Json) : Prop :=
  members.filter (fun m => m.1 = name) = [(name, v)]

/-- Whether a field has a value: that of the one member of its name, as `json` writes it, or the
default if there is no such member. -/
def HasField {α : Type} (json : α → Json) (default : α) (members : List (String × Json))
    (name : String) (a : α) : Prop :=
  Once members name (json a) ∨ (name ∉ members.map Prod.fst ∧ a = default)

/-- An integer of 32 bits as a value. -/
def Json.int32 (n : Int32) : Json :=
  .number (.integer n.toInt)

theorem filter_name_eq_nil :
    members.filter (fun m => m.1 = name) = [] ↔ name ∉ members.map Prod.fst := by
  simp only [List.filter_eq_nil_iff, decide_eq_true_eq, List.mem_map, not_exists, not_and]

theorem filter_name_eq_singleton {m : String × Json} :
    members.filter (fun m => m.1 = name) = [m] ↔ m.1 = name ∧ Once members name m.2 := by
  refine ⟨fun h => ?_, fun ⟨hname, hone⟩ => hname ▸ hone⟩
  have hmem : m ∈ members.filter fun m => m.1 = name := h ▸ List.mem_singleton_self m
  obtain rfl := of_decide_eq_true (List.mem_filter.1 hmem).2
  exact ⟨rfl, h⟩

/-- The integers that 32 bits hold. -/
theorem int32_iff {z : Int} {n : Int32} :
    (-2147483648 ≤ z ∧ z ≤ 2147483647) ∧ Int32.ofInt z = n ↔ z = n.toInt := by
  constructor
  · rintro ⟨hz, rfl⟩
    exact (Int32.toInt_ofInt_of_le hz.1 (by omega)).symm
  · rintro rfl
    have hlow := n.minValue_le_toInt
    have hhigh := n.toInt_lt
    exact ⟨⟨by simpa using hlow, by omega⟩, n.ofInt_toInt⟩

namespace Shape

theorem fit_boolean_eq (v : Json) :
    boolean.fit v = (match v with
      | .boolean b => some b
      | _ => none : Option Bool) :=
  rfl

theorem fit_boolean_iff {v : Json} {b : Bool} : boolean.fit v = some b ↔ v = .boolean b := by
  rw [fit_boolean_eq]
  split
  · rename_i b'
    rw [Json.boolean.injEq]
    exact Option.some_inj
  · rename_i hnot
    simp only [reduceCtorEq, false_iff]
    exact fun h => hnot _ h

theorem fit_text_eq (v : Json) :
    text.fit v = (match v with
      | .text s => some s
      | _ => none : Option String) :=
  rfl

theorem fit_integer_eq (v : Json) :
    integer.fit v = (match v with
      | .number (.integer z) =>
        if -2147483648 ≤ z ∧ z ≤ 2147483647 then some (Int32.ofInt z) else none
      | _ => none : Option Int32) :=
  rfl

theorem fit_text_iff {v : Json} {s : String} : text.fit v = some s ↔ v = .text s := by
  rw [fit_text_eq]
  split
  · rename_i t
    rw [Json.text.injEq]
    exact Option.some_inj
  · rename_i hnot
    simp only [reduceCtorEq, false_iff]
    exact fun h => hnot _ h

theorem fit_integer_iff {v : Json} {n : Int32} : integer.fit v = some n ↔ v = Json.int32 n := by
  rw [fit_integer_eq, Json.int32]
  split
  · rename_i z
    rw [Json.number.injEq, Number.integer.injEq, ← int32_iff]
    split_ifs with hz
    · rw [and_iff_right hz]
      exact Option.some_inj
    · simp [hz]
  · rename_i hnot
    simp only [reduceCtorEq, false_iff]
    exact fun h => hnot _ h

end Shape

/-- Two values are there together if each of them is there. -/
theorem bind_pair_eq_some_iff {α β : Type} {x : Option α} {y : Option β} {a : α} {b : β} :
    (x.bind fun v => y.bind fun row => some (v, row)) = some (a, b) ↔ x = some a ∧ y = some b := by
  rcases x with _ | v <;> rcases y with _ | row <;> simp

namespace Fields

variable {required : Bool} {shape : Shape} {rest : Fields} {v : shape.Value} {row : rest.Row}

/-- A record takes its first field from the one member of its name; only a field that is not
required may have none. -/
theorem fitMembers_cons_iff :
    (cons name required shape rest).fitMembers members = some (v, row) ↔
      ((∃ x, Once members name x ∧ shape.fit x = some v) ∨
        (required = false ∧ name ∉ members.map Prod.fst ∧ v = shape.empty)) ∧
      rest.fitMembers members = some row := by
  rw [fitMembers, ← filter_name_eq_nil]
  unfold Once
  split
  · rename_i hnone
    simp only [hnone, true_and, reduceCtorEq, false_and, exists_false, false_or]
    cases required with
    | true =>
      simp only [if_true, Bool.true_eq_false, false_and, iff_false]
      rintro ⟨⟩
    | false =>
      simp only [Bool.false_eq_true, if_false, true_and]
      exact bind_pair_eq_some_iff.trans (and_congr_left' (Option.some_inj.trans eq_comm))
  · rename_i m hone
    have hm := (filter_name_eq_singleton.1 hone).1
    have hname : ∀ x, [m] = [(name, x)] ↔ x = m.2 := fun x => by
      rw [List.singleton_inj, Prod.ext_iff, and_iff_right hm, eq_comm]
    simp only [hone, hname, exists_eq_left, reduceCtorEq, false_and, and_false, or_false]
    exact bind_pair_eq_some_iff
  · rename_i hnone hone
    constructor
    · rintro ⟨⟩
    · rintro ⟨⟨x, hx, -⟩ | ⟨-, hnil, -⟩, -⟩
      · exact absurd hx (hone _)
      · exact absurd hnil hnone

/-- The same for a shape whose values are told by how they are written. -/
theorem fitMembers_cons_iff_of_json {json : shape.Value → Json}
    (hfit : ∀ x v, shape.fit x = some v ↔ x = json v) :
    (cons name required shape rest).fitMembers members = some (v, row) ↔
      (if required then Once members name (json v)
        else HasField json shape.empty members name v) ∧
      rest.fitMembers members = some row := by
  rw [fitMembers_cons_iff]
  cases required <;> simp [hfit, HasField]

theorem fitMembers_text_iff {s : String} :
    (cons name false .text rest).fitMembers members = some (s, row) ↔
      HasField .text "" members name s ∧ rest.fitMembers members = some row :=
  fitMembers_cons_iff_of_json fun _ _ => Shape.fit_text_iff

theorem fitMembers_integer_iff {n : Int32} :
    (cons name false .integer rest).fitMembers members = some (n, row) ↔
      HasField Json.int32 0 members name n ∧ rest.fitMembers members = some row :=
  fitMembers_cons_iff_of_json fun _ _ => Shape.fit_integer_iff

theorem fitMembers_requiredText_iff {s : String} :
    (cons name true .text rest).fitMembers members = some (s, row) ↔
      Once members name (.text s) ∧ rest.fitMembers members = some row :=
  fitMembers_cons_iff_of_json fun _ s => Shape.fit_text_iff (s := s)

theorem fitItems_cons_iff {item : Json} {items : List Json} :
    (cons name required shape rest).fitItems (item :: items) = some (v, row) ↔
      shape.fit item = some v ∧ rest.fitItems items = some row :=
  bind_pair_eq_some_iff

end Fields

end Bistro
