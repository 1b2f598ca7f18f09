import Bistro.Text.Blank
import Mathlib.Data.List.DropRight

/-!
# Trimmed texts

Trimming leaves the one part of a text that has only blanks around it and none at its own ends
(`trimChars_eq_iff`), so what was trimmed stays as it is.
-/

namespace Bistro

section Ends

variable {α : Type} {p : α → Bool}

theorem exists_dropEndWhile_append (p : α → Bool) (s : List α) :
    ∃ t, s = dropEndWhile p s ++ t ∧ ∀ x ∈ t, p x := by
  refine ⟨(s.reverse.takeWhile p).reverse, ?_, fun x hx => ?_⟩
  · rw [dropEndWhile, ← List.reverse_append, List.takeWhile_append_dropWhile, List.reverse_reverse]
  · exact List.mem_takeWhile_imp (List.mem_reverse.1 hx)

theorem dropEndWhile_eq_self {s : List α} (h : ∀ x ∈ s.getLast?, p x = false) :
    dropEndWhile p s = s :=
  List.rdropWhile_eq_self_iff.2 fun hne => by
    simp [h _ (Option.mem_def.2 (List.getLast?_eq_some_getLast hne))]

theorem dropEndWhile_append {after : List α} (h : ∀ x ∈ after, p x) (s : List α) :
    dropEndWhile p (s ++ after) = dropEndWhile p s := by
  have hback : ∀ x ∈ after.reverse, p x := fun x hx => h x (List.mem_reverse.1 hx)
  rw [dropEndWhile, List.reverse_append, List.dropWhile_append_of_pos hback, dropEndWhile]

theorem getLast?_dropEndWhile (s : List α) : ∀ x ∈ (dropEndWhile p s).getLast?, p x = false := by
  intro x hx
  rw [dropEndWhile, List.getLast?_reverse] at hx
  rw [← Bool.not_eq_true]
  intro hp
  have hhead := List.head?_dropWhile_not p s.reverse
  rw [Option.mem_def.1 hx] at hhead
  simp [hp] at hhead

theorem head?_dropWhile (s : List α) : ∀ x ∈ (s.dropWhile p).head?, p x = false := by
  intro x hx
  have hhead := List.head?_dropWhile_not p s
  rw [Option.mem_def.1 hx] at hhead
  simpa using hhead

end Ends

/-- What a text is without the blanks at its ends: the rest is blank, and no blank is left at an
end. -/
structure IsTrimmed (s t : List Char) : Prop where
  within : ∃ before after, s = before ++ (t ++ after) ∧
    (∀ c ∈ before, isBlank c) ∧ ∀ c ∈ after, isBlank c
  front : ∀ c ∈ t.head?, isBlank c = false
  back : ∀ c ∈ t.getLast?, isBlank c = false

theorem isTrimmed_trimChars (s : List Char) : IsTrimmed s (trimChars s) := by
  obtain ⟨after, hs, hafter⟩ := exists_dropEndWhile_append isBlank (s.dropWhile isBlank)
  refine ⟨⟨s.takeWhile isBlank, after, ?_, fun c => List.mem_takeWhile_imp, hafter⟩, fun c hc => ?_,
    getLast?_dropEndWhile _⟩
  · rw [trimChars, ← hs, List.takeWhile_append_dropWhile]
  · refine head?_dropWhile s c ?_
    rw [hs, List.head?_append, ← trimChars, Option.mem_def.1 hc]
    rfl

theorem IsTrimmed.trimChars_eq {s t : List Char} (h : IsTrimmed s t) : trimChars s = t := by
  obtain ⟨before, after, rfl, hbefore, hafter⟩ := h.within
  rw [trimChars, List.dropWhile_append_of_pos hbefore]
  rcases t with _ | ⟨c, t⟩
  · rw [List.nil_append, List.dropWhile_eq_nil_iff.2 hafter]
    rfl
  · have hfront : isBlank c = false := h.front c rfl
    rw [List.cons_append, List.dropWhile_cons_of_neg (by simp [hfront]), ← List.cons_append,
      dropEndWhile_append hafter, dropEndWhile_eq_self h.back]

/-- Trimming leaves exactly what stands between the blanks at the ends. -/
theorem trimChars_eq_iff {s t : List Char} : trimChars s = t ↔ IsTrimmed s t :=
  ⟨fun h => h ▸ isTrimmed_trimChars s, IsTrimmed.trimChars_eq⟩

theorem trimChars_trimChars (s : List Char) : trimChars (trimChars s) = trimChars s :=
  have h := isTrimmed_trimChars s
  trimChars_eq_iff.2 ⟨⟨[], [], by simp, nofun, nofun⟩, h.front, h.back⟩

end Bistro
