import Bistro.Backend.Endpoint
import Bistro.Proofs.Trimmed

/-!
# Base and path joined

An address joined from base and path has exactly one slash where the two meet, and is otherwise as
they are (`endpointUrl_eq_iff`). So slashes at the end of the base or at the front of the path make
no difference, and nothing else of a path is lost: under one base the endpoints have different
addresses (`joins_by_one_slash`).
-/

namespace Bistro

/-- A text of slashes only. -/
def slashes (n : Nat) : String :=
  String.ofList (List.replicate n '/')

/-- The front of a base: what stands before the slashes at its end. -/
structure IsFront (base front : String) : Prop where
  split : ∃ n, base = front ++ slashes n
  bare : front.toList.getLast? ≠ some '/'

/-- The back of a path: what stands behind the slashes at its front. -/
structure IsBack (path back : String) : Prop where
  split : ∃ n, path = slashes n ++ back
  bare : back.toList.head? ≠ some '/'

/-- The address has one slash between the front of the base and the back of the path. -/
def IsJoined (base path address : String) : Prop :=
  ∃ front back, IsFront base front ∧ IsBack path back ∧ address = front ++ "/" ++ back

/-- Two paths that are one text behind the slashes at their fronts. -/
def SameBehindSlashes (path path' : String) : Prop :=
  ∃ m n rest, path = slashes m ++ rest ∧ path' = slashes n ++ rest

theorem toList_slashes (n : Nat) : (slashes n).toList = List.replicate n '/' :=
  String.toList_ofList

theorem slashes_add (m n : Nat) : slashes (m + n) = slashes m ++ slashes n := by
  apply String.toList_inj.1
  rw [String.toList_append, toList_slashes, toList_slashes, toList_slashes, List.replicate_add]

theorem mem_slashes {n : Nat} : ∀ c ∈ (slashes n).toList, (c == '/') = true := by
  intro c hc
  rw [toList_slashes] at hc
  exact beq_iff_eq.2 (List.eq_of_mem_replicate hc)

theorem ofList_eq_slashes {s : List Char} (h : ∀ c ∈ s, (c == '/') = true) :
    String.ofList s = slashes s.length := by
  rw [slashes, ← List.eq_replicate_of_mem fun c hc => beq_iff_eq.1 (h c hc)]

theorem isFront_iff {base front : String} :
    IsFront base front ↔ dropEndWhile (· == '/') base.toList = front.toList := by
  constructor
  · rintro ⟨⟨n, rfl⟩, hbare⟩
    rw [String.toList_append, dropEndWhile_append mem_slashes]
    refine dropEndWhile_eq_self fun c hc => beq_eq_false_iff_ne.2 ?_
    rintro rfl
    exact hbare hc
  · intro h
    obtain ⟨behind, hbase, hslashes⟩ := exists_dropEndWhile_append (· == '/') base.toList
    rw [h] at hbase
    refine ⟨⟨behind.length, ?_⟩, fun hlast => ?_⟩
    · rw [← ofList_eq_slashes hslashes, ← String.toList_inj, String.toList_append,
        String.toList_ofList, hbase]
    · rw [← h] at hlast
      cases getLast?_dropEndWhile base.toList '/' hlast

theorem isBack_iff {path back : String} :
    IsBack path back ↔ path.toList.dropWhile (· == '/') = back.toList := by
  constructor
  · rintro ⟨⟨n, rfl⟩, hbare⟩
    rw [String.toList_append, List.dropWhile_append_of_pos mem_slashes]
    refine List.dropWhile_eq_self_iff.2 fun hlt => ?_
    rw [beq_iff_eq]
    intro hslash
    rw [List.head?_eq_getElem?, List.getElem?_eq_getElem hlt, hslash] at hbare
    exact hbare rfl
  · intro h
    have hslashes : ∀ c ∈ path.toList.takeWhile (· == '/'), (c == '/') = true := fun c =>
      List.mem_takeWhile_imp
    refine ⟨⟨(path.toList.takeWhile (· == '/')).length, ?_⟩, fun hhead => ?_⟩
    · rw [← ofList_eq_slashes hslashes, ← String.toList_inj, String.toList_append,
        String.toList_ofList, ← h, List.takeWhile_append_dropWhile]
    · rw [← h] at hhead
      cases head?_dropWhile path.toList '/' hhead

theorem exists_isFront (base : String) : ∃ front, IsFront base front :=
  ⟨String.ofList (dropEndWhile (· == '/') base.toList), isFront_iff.2 String.toList_ofList.symm⟩

theorem exists_isBack (path : String) : ∃ back, IsBack path back :=
  ⟨String.ofList (path.toList.dropWhile (· == '/')), isBack_iff.2 String.toList_ofList.symm⟩

theorem IsFront.append_slashes {base front : String} (h : IsFront base front) (n : Nat) :
    IsFront (base ++ slashes n) front := by
  obtain ⟨m, rfl⟩ := h.split
  exact ⟨⟨m + n, by rw [slashes_add, String.append_assoc]⟩, h.bare⟩

theorem IsBack.slashes_append {path back : String} (h : IsBack path back) (n : Nat) :
    IsBack (slashes n ++ path) back := by
  obtain ⟨m, rfl⟩ := h.split
  exact ⟨⟨n + m, by rw [slashes_add, String.append_assoc]⟩, h.bare⟩

theorem endpointUrl_of_ends {base path front back : String} (hfront : IsFront base front)
    (hback : IsBack path back) : endpointUrl base path = front ++ "/" ++ back := by
  rw [endpointUrl, isFront_iff.1 hfront, isBack_iff.1 hback, ← String.toList_inj,
    String.toList_ofList, String.toList_append, String.toList_append, List.append_assoc]
  rfl

/-- Joining gives the one address that has a single slash where base and path meet. -/
theorem endpointUrl_eq_iff {base path address : String} :
    endpointUrl base path = address ↔ IsJoined base path address := by
  constructor
  · rintro rfl
    obtain ⟨front, hfront⟩ := exists_isFront base
    obtain ⟨back, hback⟩ := exists_isBack path
    exact ⟨front, back, hfront, hback, endpointUrl_of_ends hfront hback⟩
  · rintro ⟨front, back, hfront, hback, rfl⟩
    exact endpointUrl_of_ends hfront hback

example : endpointUrl "//" "///" = "/" := by decide

theorem endpointUrl_append_slashes (base path : String) (n : Nat) :
    endpointUrl (base ++ slashes n) path = endpointUrl base path := by
  obtain ⟨front, back, hfront, hback, h⟩ := endpointUrl_eq_iff.1 (rfl : endpointUrl base path = _)
  exact endpointUrl_eq_iff.2 ⟨front, back, hfront.append_slashes n, hback, h⟩

theorem endpointUrl_slashes_append (base path : String) (n : Nat) :
    endpointUrl base (slashes n ++ path) = endpointUrl base path := by
  obtain ⟨front, back, hfront, hback, h⟩ := endpointUrl_eq_iff.1 (rfl : endpointUrl base path = _)
  exact endpointUrl_eq_iff.2 ⟨front, back, hfront, hback.slashes_append n, h⟩

theorem endpointUrl_eq_endpointUrl_iff {base path path' : String} :
    endpointUrl base path = endpointUrl base path' ↔ SameBehindSlashes path path' := by
  constructor
  · intro h
    obtain ⟨front, hfront⟩ := exists_isFront base
    obtain ⟨back, hback⟩ := exists_isBack path
    obtain ⟨back', hback'⟩ := exists_isBack path'
    rw [endpointUrl_of_ends hfront hback, endpointUrl_of_ends hfront hback',
      String.append_right_inj] at h
    obtain ⟨m, rfl⟩ := hback.split
    obtain ⟨n, rfl⟩ := hback'.split
    exact ⟨m, n, back, rfl, by rw [h]⟩
  · rintro ⟨m, n, rest, rfl, rfl⟩
    rw [endpointUrl_slashes_append, endpointUrl_slashes_append]

theorem SameBehindSlashes.dropWhile_eq {path path' : String} (h : SameBehindSlashes path path') :
    path.toList.dropWhile (· == '/') = path'.toList.dropWhile (· == '/') := by
  obtain ⟨m, n, rest, rfl, rfl⟩ := h
  rw [String.toList_append, String.toList_append, List.dropWhile_append_of_pos mem_slashes,
    List.dropWhile_append_of_pos mem_slashes]

theorem Endpoint.eq_of_sameBehindSlashes {e e' : Endpoint} (h : SameBehindSlashes e.path e'.path) :
    e = e' := by
  have hdrop := h.dropWhile_eq
  revert hdrop
  cases e <;> cases e' <;> decide

/-- Base and path are joined by exactly one slash, whatever slashes the base ends and the path
begins with, and what is left of the path is kept: no two endpoints have the same address. -/
theorem joins_by_one_slash :
    (∀ base path address, endpointUrl base path = address ↔ IsJoined base path address) ∧
      (∀ base path n, endpointUrl (base ++ slashes n) path = endpointUrl base path) ∧
      (∀ base path n, endpointUrl base (slashes n ++ path) = endpointUrl base path) ∧
      (∀ base path path', endpointUrl base path = endpointUrl base path' ↔
        SameBehindSlashes path path') ∧
      ∀ base, Function.Injective fun e : Endpoint => endpointUrl base e.path :=
  ⟨fun _ _ _ => endpointUrl_eq_iff, endpointUrl_append_slashes, endpointUrl_slashes_append,
    fun _ _ _ => endpointUrl_eq_endpointUrl_iff,
    fun _ _ _ h => Endpoint.eq_of_sameBehindSlashes (endpointUrl_eq_endpointUrl_iff.1 h)⟩

end Bistro
