import Bistro.Json.Basic
import Bistro.Text.Utf8
import Mathlib.Data.List.Basic
import Mathlib.Data.List.Forall2
import Mathlib.Data.List.Induction
import Mathlib.Tactic.SplitIfs

/-!
# Sorted members

Members sorted by name are in strictly increasing order of the bytes of their names
(`pairwise_sortMembers`), and each name has the value of its last member (`mem_sortMembers`).
-/

namespace Bistro

/-- Of two characters the smaller one has the smaller bytes, whatever follows them. -/
theorem utf8EncodeChar_append_lt {c d : Char} (h : c < d) (s t : List UInt8) :
    String.utf8EncodeChar c ++ s < String.utf8EncodeChar d ++ t := by
  have hcd : c.val.toNat < d.val.toNat := h
  have hd : d.val.toNat < 0x110000 := by
    rcases d.valid with h | h
    · exact Nat.lt_trans h (by decide)
    · exact h.2
  have hsquare : ∀ n : Nat, n / 4096 = n / 64 / 64 := fun n => by rw [Nat.div_div_eq_div_mul]
  have hcube : ∀ n : Nat, n / 262144 = n / 64 / 64 / 64 := fun n => by
    rw [Nat.div_div_eq_div_mul, Nat.div_div_eq_div_mul]
  simp only [String.utf8EncodeChar]
  generalize c.val.toNat = n at *
  generalize d.val.toNat = m at *
  rw [hsquare n, hsquare m, hcube n, hcube m]
  -- one case for each two numbers of bytes: the first byte decides unless the numbers agree
  split_ifs <;>
    simp only [List.cons_append, List.nil_append, List.cons_lt_cons_iff, UInt8.lt_iff_toNat_lt,
      ← UInt8.toNat_inj, UInt8.toNat_ofNat'] <;> omega

theorem flatMap_utf8EncodeChar_lt :
    ∀ {s t : List Char}, s < t → s.flatMap String.utf8EncodeChar < t.flatMap String.utf8EncodeChar
  | s, [], h => absurd h (List.not_lt_nil s)
  | [], d :: t, _ => by
    rcases hbytes : String.utf8EncodeChar d with _ | ⟨b, bytes⟩
    · exact absurd hbytes String.utf8EncodeChar_ne_nil
    · simp [hbytes]
  | c :: s, d :: t, h => by
    simp only [List.flatMap_cons]
    rcases List.cons_lt_cons_iff.1 h with hlt | ⟨rfl, hrest⟩
    · exact utf8EncodeChar_append_lt hlt _ _
    · exact List.append_left_lt (flatMap_utf8EncodeChar_lt hrest)

theorem utf8_eq_flatMap (s : String) : utf8 s = s.toList.flatMap String.utf8EncodeChar := by
  rw [utf8, String.toUTF8, ← String.utf8Encode_toList, List.utf8Encode]
  simp

/-- Texts are ordered by their bytes as they are by their characters. -/
theorem utf8_lt_utf8_iff (s t : String) : utf8 s < utf8 t ↔ s < t := by
  have hlt : ∀ {s t : String}, s < t → utf8 s < utf8 t := fun h => by
    rw [utf8_eq_flatMap, utf8_eq_flatMap]
    exact flatMap_utf8EncodeChar_lt (String.lt_iff.1 h)
  refine ⟨fun h => ?_, hlt⟩
  by_contra hst
  by_cases hts : t < s
  · exact List.lt_asymm h (hlt hts)
  · obtain rfl := String.le_antisymm (String.not_lt.1 hts) (String.not_lt.1 hst)
    exact List.lt_irrefl _ h

variable {α β : Type}

/-- Whether a value is that of the last member of a name. -/
def IsLast (members : List (String × α)) (name : String) (value : α) : Prop :=
  ∃ before later, members = before ++ (name, value) :: later ∧ name ∉ later.map Prod.fst

theorem not_isLast_nil (name : String) (value : α) : ¬ IsLast [] name value := by
  rintro ⟨before, later, h, -⟩
  simp at h

/-- A member behind all others is the last one of its name. -/
theorem isLast_concat (members : List (String × α)) (m : String × α) (name : String) (value : α) :
    IsLast (members ++ [m]) name value ↔
      (name = m.1 ∧ value = m.2) ∨ (name ≠ m.1 ∧ IsLast members name value) := by
  constructor
  · rintro ⟨before, later, heq, hlater⟩
    rcases List.eq_nil_or_concat later with rfl | ⟨later', last, rfl⟩
    · obtain ⟨-, rfl⟩ := List.append_singleton_inj.1 heq
      exact .inl ⟨rfl, rfl⟩
    · rw [List.concat_eq_append, ← List.cons_append, ← List.append_assoc] at heq
      obtain ⟨rfl, rfl⟩ := List.append_singleton_inj.1 heq
      simp only [List.concat_eq_append, List.map_append, List.map_singleton, List.mem_append,
        List.mem_singleton, not_or] at hlater
      exact .inr ⟨hlater.2, before, later', rfl, hlater.1⟩
  · rintro (⟨rfl, rfl⟩ | ⟨hne, before, later, rfl, hlater⟩)
    · exact ⟨members, [], rfl, by simp⟩
    · refine ⟨before, later ++ [m], by simp, ?_⟩
      simpa [hne] using hlater

/-- The last member of a name is the last one behind the first member, or the first one if no other
has its name. -/
theorem isLast_cons (m : String × α) (members : List (String × α)) (name : String) (value : α) :
    IsLast (m :: members) name value ↔
      IsLast members name value ∨ (name = m.1 ∧ value = m.2 ∧ name ∉ members.map Prod.fst) := by
  constructor
  · rintro ⟨before, later, heq, hlater⟩
    rcases before with _ | ⟨first, before⟩
    · obtain ⟨rfl, rfl⟩ := List.cons.inj heq
      exact .inr ⟨rfl, rfl, hlater⟩
    · obtain ⟨rfl, rfl⟩ := List.cons.inj heq
      exact .inl ⟨before, later, rfl, hlater⟩
  · rintro (⟨before, later, rfl, hlater⟩ | ⟨rfl, rfl, hnone⟩)
    · exact ⟨m :: before, later, rfl, hlater⟩
    · exact ⟨[], members, rfl, hnone⟩

/-- Members whose values are replaced one by one have the same names, and the last member of a name
is replaced by the last one. -/
theorem isLast_of_forall₂ {R : α → β → Prop} (hR : ∀ x y y', R x y → R x y' → y = y')
    {members : List (String × α)} {replaced : List (String × β)}
    (h : List.Forall₂ (fun m n => m.1 = n.1 ∧ R m.2 n.2) members replaced) (name : String) (y : β) :
    IsLast replaced name y ↔ ∃ x, IsLast members name x ∧ R x y := by
  induction h with
  | nil => simp [not_isLast_nil]
  | @cons m n members replaced hmn h ih =>
    have hnames : members.map Prod.fst = replaced.map Prod.fst :=
      List.forall₂_eq_eq_eq ▸ List.forall₂_map_left_iff.2
        (List.forall₂_map_right_iff.2 (h.imp fun _ _ hab => hab.1))
    simp only [isLast_cons, ih, hnames]
    constructor
    · rintro (⟨x, hx, hxy⟩ | ⟨rfl, rfl, hnone⟩)
      · exact ⟨x, .inl hx, hxy⟩
      · exact ⟨m.2, .inr ⟨hmn.1.symm, rfl, hnone⟩, hmn.2⟩
    · rintro ⟨x, hx | ⟨rfl, rfl, hnone⟩, hxy⟩
      · exact .inl ⟨x, hx, hxy⟩
      · exact .inr ⟨hmn.1, hR _ _ _ hxy hmn.2, hnone⟩

def IsSorted (members : List (String × α)) : Prop :=
  members.Pairwise fun a b => a.1 < b.1

theorem mem_putMember (name : String) (value : α) (k : String) (v : α) :
    ∀ {members : List (String × α)}, IsSorted members →
      ((k, v) ∈ putMember name value members ↔
        (k = name ∧ v = value) ∨ (k ≠ name ∧ (k, v) ∈ members))
  | [], _ => by simp [putMember]
  | (n, x) :: members, h => by
    obtain ⟨hfirst, hrest⟩ := List.pairwise_cons.1 h
    have ih := mem_putMember name value k v hrest
    -- no name from `n` on is one that is smaller than `n`, and none behind `n` is `n` itself
    have hne : ∀ m ∈ members, name ≤ n → m.1 ≠ name := fun m hm hle heq =>
      String.not_lt.2 hle (heq ▸ hfirst m hm)
    rw [putMember]
    split_ifs with hlt heq
    · have hn : n ≠ name := fun h => String.lt_irrefl _ (h ▸ hlt)
      have hle : name ≤ n := Std.le_of_lt hlt
      grind
    · subst heq
      have hle : name ≤ name := String.le_refl name
      grind
    · grind

theorem mem_putMember_name {name : String} {value : α} {members : List (String × α)}
    {m : String × α} (h : m ∈ putMember name value members) : m.1 = name ∨ m ∈ members := by
  induction members with
  | nil => simp_all [putMember]
  | cons first members ih =>
    rw [putMember] at h
    split_ifs at h with hlt heq <;> grind

theorem isSorted_putMember (name : String) (value : α) :
    ∀ {members : List (String × α)}, IsSorted members → IsSorted (putMember name value members)
  | [], _ => by simp [putMember, IsSorted]
  | (n, x) :: members, h => by
    obtain ⟨hfirst, hrest⟩ := List.pairwise_cons.1 h
    rw [putMember]
    split_ifs with hlt heq
    · refine List.pairwise_cons.2 ⟨fun m hm => ?_, h⟩
      rcases List.mem_cons.1 hm with rfl | hm
      · exact hlt
      · exact String.lt_trans hlt (hfirst m hm)
    · exact List.pairwise_cons.2 ⟨fun m hm => heq ▸ hfirst m hm, hrest⟩
    · have hgt : n < name := by
        by_contra hge
        exact heq (String.le_antisymm (String.not_lt.1 hge) (String.not_lt.1 hlt))
      refine List.pairwise_cons.2 ⟨fun m hm => ?_, isSorted_putMember name value hrest⟩
      rcases mem_putMember_name hm with hname | hm
      · exact hname ▸ hgt
      · exact hfirst m hm

theorem sortMembers_concat (members : List (String × α)) (m : String × α) :
    sortMembers (members ++ [m]) = putMember m.1 m.2 (sortMembers members) := by
  rw [sortMembers, List.foldl_append]
  rfl

theorem isSorted_sortMembers (members : List (String × α)) : IsSorted (sortMembers members) := by
  induction members using List.reverseRecOn with
  | nil => exact List.Pairwise.nil
  | append_singleton members m ih =>
    rw [sortMembers_concat]
    exact isSorted_putMember m.1 m.2 ih

/-- Each name is kept once, with the value of its last member. -/
theorem mem_sortMembers (members : List (String × α)) (name : String) (value : α) :
    (name, value) ∈ sortMembers members ↔ IsLast members name value := by
  induction members using List.reverseRecOn with
  | nil => simp [sortMembers, not_isLast_nil]
  | append_singleton members m ih =>
    rw [sortMembers_concat, mem_putMember _ _ _ _ (isSorted_sortMembers members), isLast_concat, ih]

theorem nodup_of_pairwise_name {members : List (String × α)}
    (h : members.Pairwise fun a b => utf8 a.1 < utf8 b.1) : members.Nodup := by
  refine List.Pairwise.imp (fun hlt => ?_) h
  rintro rfl
  exact List.lt_irrefl _ hlt

/-- Members in strictly increasing order of their names are known from what is among them. -/
theorem eq_of_pairwise_name {members others : List (String × α)}
    (h : members.Pairwise fun a b => utf8 a.1 < utf8 b.1)
    (h' : others.Pairwise fun a b => utf8 a.1 < utf8 b.1)
    (hmem : ∀ name value, (name, value) ∈ members ↔ (name, value) ∈ others) : members = others :=
  List.Perm.eq_of_pairwise (fun _ _ _ _ hab hba => absurd hab (List.lt_asymm hba)) h h'
    ((List.perm_ext_iff_of_nodup (nodup_of_pairwise_name h) (nodup_of_pairwise_name h')).2
      fun m => hmem m.1 m.2)

/-- The names that are kept stand in strictly increasing order of their bytes. -/
theorem pairwise_sortMembers (members : List (String × α)) :
    (sortMembers members).Pairwise fun a b => utf8 a.1 < utf8 b.1 :=
  (isSorted_sortMembers members).imp fun h => (utf8_lt_utf8_iff _ _).2 h

theorem sortMembers_of_pairwise {members : List (String × α)}
    (h : members.Pairwise fun a b => utf8 a.1 < utf8 b.1) : sortMembers members = members := by
  refine eq_of_pairwise_name (pairwise_sortMembers members) h fun name value => ?_
  rw [mem_sortMembers]
  constructor
  · rintro ⟨before, later, rfl, -⟩
    simp
  · intro hmem
    obtain ⟨before, later, rfl⟩ := List.append_of_mem hmem
    refine ⟨before, later, rfl, fun hlater => ?_⟩
    obtain ⟨m, hm, rfl⟩ := List.mem_map.1 hlater
    have hbehind := (List.pairwise_cons.1 (List.pairwise_append.1 h).2.1).1 m hm
    exact List.lt_irrefl _ hbehind

end Bistro
