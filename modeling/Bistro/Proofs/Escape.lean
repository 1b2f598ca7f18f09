import Bistro.Page.Fragment
import Mathlib.Logic.ExistsUnique
import Mathlib.Tactic.SplitIfs

/-!
# Escaped text

Escaping leaves none of the characters that mean something in markup (`plain_escape`), and it can be
undone (`unescapeChars_escapeChars`), so different texts stay different. Integers need no escaping
(`plain_integer`).

The escaped texts are exactly those without markup, in which each ampersand begins an entity
(`exists_escape_eq_iff`); `escaping_is_exact` puts these laws together.
-/

namespace Bistro

/-- Whether a character means nothing in markup, neither in a text nor in a quoted value. The
ampersand is not asked for, since it begins the entities. -/
def isPlain (c : Char) : Bool :=
  c != '<' && c != '>' && c != '"' && c != '\''

/-- Reads the five entities back, from left to right. -/
def unescapeChars : List Char → List Char
  | '&' :: 'a' :: 'm' :: 'p' :: ';' :: rest => '&' :: unescapeChars rest
  | '&' :: 'l' :: 't' :: ';' :: rest => '<' :: unescapeChars rest
  | '&' :: 'g' :: 't' :: ';' :: rest => '>' :: unescapeChars rest
  | '&' :: 'q' :: 'u' :: 'o' :: 't' :: ';' :: rest => '"' :: unescapeChars rest
  | '&' :: '#' :: '3' :: '9' :: ';' :: rest => '\'' :: unescapeChars rest
  | c :: rest => c :: unescapeChars rest
  | [] => []

/-- A text with its entities read back. -/
def unescape (s : String) : String :=
  String.ofList (unescapeChars s.toList)

theorem unescapeChars_cons {c : Char} (h : c ≠ '&') (rest : List Char) :
    unescapeChars (c :: rest) = c :: unescapeChars rest := by
  rw [unescapeChars] <;> simp [h]

/-- Where no entity begins, everything is read as it is. -/
theorem unescapeChars_append {s : List Char} (h : '&' ∉ s) (rest : List Char) :
    unescapeChars (s ++ rest) = s ++ unescapeChars rest := by
  induction s with
  | nil => rfl
  | cons c s ih =>
    rw [List.mem_cons, not_or] at h
    rw [List.cons_append, unescapeChars_cons (Ne.symm h.1), ih h.2, List.cons_append]

theorem escapeChars_cons (c : Char) (s : List Char) :
    escapeChars (c :: s) = escapeChar c ++ escapeChars s :=
  List.flatMap_cons

theorem escapeChars_append (s t : List Char) :
    escapeChars (s ++ t) = escapeChars s ++ escapeChars t :=
  List.flatMap_append

theorem toList_escape (s : String) : (escape s).toList = escapeChars s.toList :=
  String.toList_ofList

theorem escape_append (s t : String) : escape (s ++ t) = escape s ++ escape t := by
  apply String.toList_inj.1
  simp only [toList_escape, String.toList_append, escapeChars_append]

theorem plain_escapeChar (c : Char) : (escapeChar c).all isPlain := by
  unfold escapeChar
  split_ifs with h1 h2 h3 h4 h5
  · decide
  · decide
  · decide
  · decide
  · decide
  · simp [isPlain, h2, h3, h4, h5]

theorem plain_escapeChars (s : List Char) : (escapeChars s).all isPlain := by
  simp only [escapeChars, List.all_flatMap, List.all_eq_true]
  intro c _
  exact List.all_eq_true.1 (plain_escapeChar c)

@[simp] theorem plain_escape (s : String) : (escape s).toList.all isPlain := by
  rw [toList_escape]
  exact plain_escapeChars _

/-- An escaped character is read back, whatever follows it. -/
theorem unescapeChars_escapeChar (c : Char) (rest : List Char) :
    unescapeChars (escapeChar c ++ rest) = c :: unescapeChars rest := by
  unfold escapeChar
  split_ifs with h1 h2 h3 h4 h5
  · rw [h1]; rfl
  · rw [h2]; rfl
  · rw [h3]; rfl
  · rw [h4]; rfl
  · rw [h5]; rfl
  · exact unescapeChars_cons h1 rest

theorem unescapeChars_escapeChars : ∀ s : List Char, unescapeChars (escapeChars s) = s
  | [] => rfl
  | c :: s => by
    rw [escapeChars_cons, unescapeChars_escapeChar, unescapeChars_escapeChars s]

theorem unescape_escape (s : String) : unescape (escape s) = s := by
  rw [unescape, toList_escape, unescapeChars_escapeChars, String.ofList_toList]

example : escape "&amp;lt;" = "&amp;amp;lt;" ∧ unescape "&amp;amp;lt;" = "&amp;lt;" := by decide

theorem unescape_append_escape {s : String} (h : '&' ∉ s.toList) (t : String) :
    unescape (s ++ escape t) = s ++ t := by
  rw [unescape, String.toList_append, unescapeChars_append h, toList_escape,
    unescapeChars_escapeChars, String.ofList_append, String.ofList_toList, String.ofList_toList]

theorem escape_injective {s t : String} (h : escape s = escape t) : s = t := by
  have := congrArg (fun u => unescapeChars u.toList) h
  simp only [toList_escape, unescapeChars_escapeChars] at this
  exact String.toList_inj.1 this

theorem plain_of_isDigit {c : Char} (h : c.isDigit) : isPlain c := by
  have hne : ∀ x : Char, x.isDigit = false → (c != x) = true := by
    intro x hx
    rw [bne_iff_ne]
    rintro rfl
    rw [hx] at h
    cases h
  simp [isPlain, hne]

@[simp] theorem plain_integer (z : Int32) : (Fragment.integer z).toList.all isPlain := by
  have hdigits : ∀ n : Nat, (Decimal.digits n).all isPlain := fun n =>
    List.all_eq_true.2 fun c hc =>
      plain_of_isDigit (Nat.isDigit_of_mem_toDigits (by decide) (by decide) hc)
  rw [Fragment.integer, Decimal.write, String.toList_ofList]
  cases z.toInt with
  | ofNat n => exact hdigits n
  | negSucc n =>
    rw [Decimal.chars, List.all_cons, hdigits]
    rfl

/-! ## Entities -/

/-- The characters that mean something in markup, each with its entity. -/
def entities : List (Char × String) :=
  [('&', "&amp;"), ('<', "&lt;"), ('>', "&gt;"), ('"', "&quot;"), ('\'', "&#39;")]

/-- The characters that are not written as they are. -/
def markers : List Char :=
  entities.map Prod.fst

/-- A text without markup: no tag or quoted value begins or ends in it, and each ampersand begins
exactly one of the entities. -/
structure IsEscaped (s : List Char) : Prop where
  plain : s.all isPlain
  entity : ∀ before after, s = before ++ '&' :: after →
    ∃! e, e ∈ entities ∧ e.2.toList <+: '&' :: after

theorem escapeChar_of_mem : ∀ e ∈ entities, escapeChar e.1 = e.2.toList := by
  decide

theorem exists_entity {c : Char} (h : c ∈ markers) : ∃ e ∈ entities, escapeChar c = e.2.toList := by
  obtain ⟨e, he, rfl⟩ := List.mem_map.1 h
  exact ⟨e, he, escapeChar_of_mem e he⟩

theorem escapeChar_of_notMem {c : Char} (h : c ∉ markers) : escapeChar c = [c] := by
  simp only [markers, entities, List.map_cons, List.map_nil, List.mem_cons, List.not_mem_nil,
    or_false, not_or] at h
  obtain ⟨h1, h2, h3, h4, h5⟩ := h
  rw [escapeChar, if_neg h1, if_neg h2, if_neg h3, if_neg h4, if_neg h5]

theorem notMem_markers {c : Char} (hplain : isPlain c) (hne : c ≠ '&') : c ∉ markers := by
  simpa [markers, entities, isPlain, hne, and_assoc] using hplain

theorem eq_of_entities {e e' : Char × String} (he : e ∈ entities) (he' : e' ∈ entities)
    {s : List Char} (hs : e.2.toList <+: s) (hs' : e'.2.toList <+: s) : e = e' := by
  -- none of the entities begins another one
  have hfree : ∀ e ∈ entities, ∀ e' ∈ entities, e.2.toList <+: e'.2.toList → e = e' := by decide
  rcases List.prefix_or_prefix_of_prefix hs hs' with h | h
  · exact hfree e he e' he' h
  · exact (hfree e' he' e he h).symm

/-- An ampersand in what a character is written as begins an entity there. -/
theorem entity_of_escapeChar {c : Char} {before after : List Char}
    (h : escapeChar c = before ++ '&' :: after) :
    before = [] ∧ ∃ e ∈ entities, escapeChar c = e.2.toList := by
  by_cases hc : c ∈ markers
  · obtain ⟨e, he, heq⟩ := exists_entity hc
    have htail : ∀ e ∈ entities, '&' ∉ e.2.toList.tail := by decide
    refine ⟨?_, e, he, heq⟩
    rcases before with _ | ⟨x, before⟩
    · rfl
    · exact absurd (by rw [← heq, h]; simp) (htail e he)
  · rw [escapeChar_of_notMem hc, List.singleton_eq_append_iff] at h
    rcases h with ⟨rfl, h⟩ | ⟨-, h⟩
    · obtain ⟨rfl, -⟩ := List.cons.inj h
      exact absurd (by simp [markers, entities]) hc
    · cases h

/-- An ampersand in an escaped text begins an entity. -/
theorem exists_entity_prefix : ∀ {s before after : List Char},
    escapeChars s = before ++ '&' :: after → ∃ e ∈ entities, e.2.toList <+: '&' :: after
  | [], _, _, h => by simp [escapeChars] at h
  | c :: s, before, after, h => by
    rw [escapeChars_cons, List.append_eq_append_iff] at h
    -- the ampersand stands behind what `c` is written as, or within it
    rcases h with ⟨front, -, h⟩ | ⟨back, hc, h⟩
    · exact exists_entity_prefix h
    · rcases back with _ | ⟨x, back⟩
      · have hrest : escapeChars s = [] ++ '&' :: after := h.symm
        exact exists_entity_prefix hrest
      · obtain ⟨rfl, rfl⟩ := List.cons.inj h
        obtain ⟨rfl, e, he, heq⟩ := entity_of_escapeChar hc
        exact ⟨e, he, by simp [← heq, hc]⟩

theorem isEscaped_escapeChars (s : List Char) : IsEscaped (escapeChars s) where
  plain := plain_escapeChars s
  entity before after h := by
    obtain ⟨e, he, hprefix⟩ := exists_entity_prefix h
    exact ⟨e, ⟨he, hprefix⟩, fun e' h' => eq_of_entities h'.1 he h'.2 hprefix⟩

theorem IsEscaped.of_append {front s : List Char} (h : IsEscaped (front ++ s)) : IsEscaped s where
  plain := by
    have := h.plain
    rw [List.all_append, Bool.and_eq_true] at this
    exact this.2
  entity before after hs := h.entity (front ++ before) after (by rw [hs, List.append_assoc])

theorem IsEscaped.exists_escapeChar_append {c : Char} {s : List Char} (h : IsEscaped (c :: s)) :
    ∃ first rest, c :: s = escapeChar first ++ rest := by
  by_cases hc : c = '&'
  · subst hc
    obtain ⟨e, ⟨he, rest, hrest⟩, -⟩ := h.entity [] s rfl
    exact ⟨e.1, rest, by rw [escapeChar_of_mem e he, hrest]⟩
  · have hplain : isPlain c := List.all_eq_true.1 h.plain c List.mem_cons_self
    exact ⟨c, s, by rw [escapeChar_of_notMem (notMem_markers hplain hc), List.singleton_append]⟩

theorem length_escapeChar_pos (c : Char) : 0 < (escapeChar c).length := by
  unfold escapeChar
  split_ifs <;> simp

theorem length_le_escapeChars : ∀ s : List Char, s.length ≤ (escapeChars s).length
  | [] => Nat.le_refl 0
  | c :: s => by
    have ih := length_le_escapeChars s
    have hc := length_escapeChar_pos c
    rw [escapeChars_cons, List.length_append, List.length_cons]
    omega

/-- Reading the entities back can be undone too. The recursion goes over what single characters are
written as, not over the cases of the reader. -/
theorem IsEscaped.escapeChars_unescapeChars : ∀ {s : List Char}, IsEscaped s →
    escapeChars (unescapeChars s) = s
  | [], _ => rfl
  | c :: s, h => by
    obtain ⟨first, rest, heq⟩ := h.exists_escapeChar_append
    rw [heq] at h
    have hlength : rest.length < s.length + 1 := by
      have hfirst := length_escapeChar_pos first
      rw [← List.length_cons, heq, List.length_append]
      omega
    rw [heq, unescapeChars_escapeChar, escapeChars_cons, h.of_append.escapeChars_unescapeChars]
termination_by s => s.length

theorem escapeChars_eq_self_iff : ∀ {s : List Char}, escapeChars s = s ↔ ∀ c ∈ s, c ∉ markers
  | [] => by simp [escapeChars]
  | c :: s => by
    rw [List.forall_mem_cons, ← escapeChars_eq_self_iff, escapeChars_cons]
    by_cases hc : c ∈ markers
    · refine iff_of_false (fun h => ?_) fun h => h.1 hc
      -- an entity is longer than its character, and nothing behind it gets shorter
      obtain ⟨e, he, heq⟩ := exists_entity hc
      have hlong : ∀ e ∈ entities, 1 < e.2.toList.length := by decide
      have hentity := hlong e he
      have hs := length_le_escapeChars s
      have hlength := congrArg List.length h
      rw [heq, List.length_append, List.length_cons] at hlength
      omega
    · rw [escapeChar_of_notMem hc, List.singleton_append, List.cons_inj_right]
      exact ⟨fun h => ⟨hc, h⟩, And.right⟩

theorem exists_escape_eq_iff {t : String} : (∃ s, escape s = t) ↔ IsEscaped t.toList := by
  constructor
  · rintro ⟨s, rfl⟩
    rw [toList_escape]
    exact isEscaped_escapeChars s.toList
  · intro h
    refine ⟨unescape t, String.toList_inj.1 ?_⟩
    rw [toList_escape, unescape, String.toList_ofList, h.escapeChars_unescapeChars]

theorem escape_eq_self_iff {s : String} : escape s = s ↔ ∀ c ∈ s.toList, c ∉ markers := by
  rw [← String.toList_inj, toList_escape, escapeChars_eq_self_iff]

/-- Escaping loses nothing, and what it leaves has no markup: the escaped texts are exactly those
without. -/
theorem escaping_is_exact :
    (∀ s, unescape (escape s) = s) ∧ Function.Injective escape ∧
      (∀ s t, escape (s ++ t) = escape s ++ escape t) ∧
      (∀ t, (∃ s, escape s = t) ↔ IsEscaped t.toList) ∧
      ∀ s, escape s = s ↔ ∀ c ∈ s.toList, c ∉ markers :=
  ⟨unescape_escape, fun _ _ => escape_injective, escape_append, fun _ => exists_escape_eq_iff,
    fun _ => escape_eq_self_iff⟩

end Bistro
