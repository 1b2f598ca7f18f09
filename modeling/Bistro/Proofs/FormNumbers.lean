import Bistro.Proofs.Run
import Bistro.Proofs.Spelled

/-!
# Numbers in forms

A review and a restaurant are made with the number in one control of their form. It is taken if the
text of the control spells an integer of 32 bits between blanks, and refused with that very text in
every other case (`Form.madeWith_map`). A form that is refused asks the backend for nothing
(`Visit.turnsAway`).
-/

namespace Bistro

variable {σ : Type}

/-- The integer that a text spells, where blanks may stand around it. -/
def Decimal.Gives (text : String) (z : Int) : Prop :=
  ∃ before s after, text.toList = before ++ (s ++ after) ∧ Spells s z ∧
    (∀ c ∈ before, isBlank c) ∧ ∀ c ∈ after, isBlank c

/-- No blank is part of an integer, so it is what trimming leaves. -/
theorem Decimal.gives_iff {text : String} {z : Int} :
    Gives text z ↔ Spells (trimChars text.toList) z := by
  constructor
  · rintro ⟨before, s, after, htext, hspells, hbefore, hafter⟩
    have hblank : ∀ c ∈ s, isBlank c = false :=
      hspells.forall_mem (fun _ => isBlank_of_isDigit) rfl rfl
    have htrimmed : IsTrimmed text.toList s :=
      ⟨⟨before, after, htext, hbefore, hafter⟩, fun c hc => hblank c (List.mem_of_mem_head? hc),
        fun c hc => hblank c (List.mem_of_mem_getLast? hc)⟩
    rwa [htrimmed.trimChars_eq]
  · intro hspells
    obtain ⟨before, after, htext, hbefore, hafter⟩ := (isTrimmed_trimChars text.toList).within
    exact ⟨before, _, after, htext, hspells, hbefore, hafter⟩

theorem Decimal.not_gives_empty (z : Int) : ¬ Gives "" z := by
  rw [gives_iff]
  exact spells_nil_iff.1

namespace Form

theorem value_of_missing {form : Form} {control : Control}
    (h : control.name ∉ form.map Prod.fst) : form.value control = "" := by
  have hnone : form.reverse.find? (fun m => m.1 = control.name) = none :=
    List.find?_eq_none.2 fun m hm hname =>
      h (List.mem_map.2 ⟨m, List.mem_reverse.1 hm, of_decide_eq_true hname⟩)
  rw [value, hnone]

theorem number_eq_ok_iff {form : Form} {control : Control} {n : Int32} :
    form.number control = .ok n ↔ Decimal.Gives (form.value control) n.toInt := by
  rw [Decimal.gives_iff, ← readInt32_eq_ok_iff, number]
  rcases readInt32 (trimChars (form.value control).toList) with fault | n'
  · exact iff_of_false nofun nofun
  · simp only [Except.ok.injEq]

theorem number_eq_error_iff {form : Form} {control : Control} {t : Trouble} :
    form.number control = .error t ↔
      (∀ n : Int32, ¬ Decimal.Gives (form.value control) n.toInt) ∧
        t = .invalidInput
          (control.name ++ " must be a number, got `" ++ form.value control ++ "`") := by
  rcases h : form.number control with t' | n
  · have hnone : ∀ n : Int32, ¬ Decimal.Gives (form.value control) n.toInt := fun n hn => by
      rw [number_eq_ok_iff.2 hn] at h
      cases h
    have ht : t' = .invalidInput
        (control.name ++ " must be a number, got `" ++ form.value control ++ "`") := by
      rw [number] at h
      split at h
      · cases h
      · exact (Except.error.inj h).symm
    rw [and_iff_right hnone, Except.error.injEq, ht]
    exact eq_comm
  · exact iff_of_false nofun fun hnone => hnone.1 n (number_eq_ok_iff.1 h)

/-- What is made with the number in a control: with exactly the integer that the text there gives,
or not at all, and then with the text as it was typed in the trouble. -/
structure MadeWith {α : Type} (form : Form) (control : Control) (make : Int32 → α)
    (made : Except Trouble α) : Prop where
  taken : ∀ a, made = .ok a ↔ ∃ z : Int, Decimal.Gives (form.value control) z ∧
    (-2147483648 ≤ z ∧ z ≤ 2147483647) ∧ ∃ n : Int32, n.toInt = z ∧ a = make n
  refused : ∀ t, made = .error t ↔
    (¬ ∃ z : Int, Decimal.Gives (form.value control) z ∧ (-2147483648 ≤ z ∧ z ≤ 2147483647)) ∧
      t = .invalidInput (control.name ++ " must be a number, got `" ++ form.value control ++ "`")

theorem madeWith_map {α : Type} (form : Form) (control : Control) (make : Int32 → α) :
    form.MadeWith control make ((form.number control).map make) where
  taken a := by
    rw [map_eq_ok_iff]
    simp only [number_eq_ok_iff]
    constructor
    · rintro ⟨n, hn, rfl⟩
      exact ⟨n.toInt, hn, (int32_iff.2 rfl).1, n, rfl, rfl⟩
    · rintro ⟨z, hz, -, n, rfl, rfl⟩
      exact ⟨n, hz, rfl⟩
  refused t := by
    rw [map_eq_error_iff, number_eq_error_iff]
    refine and_congr_left' ⟨?_, fun hnone n hn => hnone ⟨n.toInt, hn, (int32_iff.2 rfl).1⟩⟩
    rintro hnone ⟨z, hz, hrange⟩
    exact hnone (Int32.ofInt z) (by rwa [← int32_iff.1 ⟨hrange, rfl⟩])

end Form

/-- An operation that is turned away: nothing is sent, the browser stays on the page all the same,
and the region shows the trouble. -/
structure Visit.TurnsAway (backend : Backend σ) (base : String) (v : Visit σ) (op : Operation)
    (r : RegionId) (t : Trouble) : Prop where
  unsent : ∀ log, ((v.withLog log).perform backend.recorded base op).progress.state.2 = log
  shown : ((v.perform backend base op).document.region r).content = .failed t.message
  prevented : (v.perform backend base op).prevented = v.prevented + 1

theorem Visit.turnsAway {op : Operation} {r : RegionId} {t : Trouble} (htargets : op.targets = [r])
    (hcall : op.callFor r = .error t) (hsubmit : op.isSubmit) (backend : Backend σ) (base : String)
    (v : Visit σ) : v.TurnsAway backend base op r t where
  unsent log := by
    have hrequests : op.requests base = [] := by
      simp [Operation.requests, Operation.calls, htargets, hcall, Except.toOption]
    rw [perform_recorded, hrequests, List.append_nil]
    rfl
  shown := by
    rw [region_perform, if_pos (by simp [htargets])]
    simp only [Region.write, written, Operation.written, hcall]
  prevented := by
    rw [prevented_perform, if_pos hsubmit]

/-- The number in a form is read exactly or refused. A review is made with the rating and a
restaurant with the capacity if the text of that control gives an integer of 32 bits, which that of
a missing control does not; all other controls are taken as they were typed. In every other case the
trouble names the control and quotes its text, and when such a form is submitted, nothing is sent,
the region shows the trouble, and the browser is kept on the page once. -/
theorem Form.numbers_are_read_exactly (form : Form) :
    form.MadeWith .rating (fun rating =>
        { userName := form.value .userName, restaurantName := form.value .restaurantName,
          review := form.value .review, rating }) form.review ∧
      form.MadeWith .capacity (fun capacity =>
        { restaurantName := form.value .restaurantName, location := form.value .location,
          style := form.value .style, capacity }) form.restaurant ∧
      (∀ control : Control, control.name ∉ form.map Prod.fst →
        ∀ z, ¬ Decimal.Gives (form.value control) z) ∧
      ∀ (σ : Type) (backend : Backend σ) (base : String) (v : Visit σ) (r : RegionId) (t : Trouble),
        (form.review = .error t → v.TurnsAway backend base (.submitReview r form) r t) ∧
          (form.restaurant = .error t → v.TurnsAway backend base (.submitRestaurant r form) r t) := by
  refine ⟨form.madeWith_map .rating _, form.madeWith_map .capacity _,
    fun control h => ?_, fun σ backend base v r t => ⟨fun h => ?_, fun h => ?_⟩⟩
  · rw [value_of_missing h]
    exact Decimal.not_gives_empty
  · exact Visit.turnsAway rfl (by simp only [Operation.callFor, h]; rfl) rfl backend base v
  · exact Visit.turnsAway rfl (by simp only [Operation.callFor, h]; rfl) rfl backend base v

example : Form.review [("rating", " +0005\n"), ("user-name", " Ann ")] =
    .ok ⟨" Ann ", "", "", 5⟩ := by
  rfl

end Bistro
