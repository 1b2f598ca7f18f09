import Bistro.Proofs.Operation
import Bistro.Service.Pages
import Mathlib.Data.List.Nodup

/-!
# Pages on their way

What goes on while a page is made, one move at a time: the fills of a step are begun together, each
request that can be made is in flight until its answer arrives, whenever that is, and a step begins
when the one before it is done. A move is silent or writes one region (`Moves.silent_or_writes`), so
where the regions are distinct the document says which answers have arrived, and nothing else
(`follows_of_run`): neither a move of another fill nor the order of the answers shows in it.
-/

namespace Bistro

variable {σ : Type}

/-- A page on its way: its document, the fills of the step under way that are not begun and those
whose requests are in flight, and the steps to come. -/
structure Flow where
  document : Document
  idle : List Fill
  flying : List Fill
  later : List Step

/-- What can happen next: a step begins, the request of a region leaves, a region without a request
is written, or the answer for a region arrives. -/
inductive Move where
  | begin
  | send (region : RegionId)
  | put (region : RegionId)
  | answer (region : RegionId) (outcome : Outcome)

def Move.isAnswer : Move → Bool
  | .answer .. => true
  | _ => false

namespace Flow

def start (d : Document) (steps : List Step) : Flow :=
  ⟨d, [], [], steps⟩

/-- The fills that have not written their region yet. -/
def waiting (w : Flow) : List Fill :=
  w.idle ++ w.flying ++ w.later.flatMap Step.fills

/-- One move. A fill that makes no request writes the same whatever outcome is taken for it. -/
inductive Moves (base : String) : Flow → Move → Flow → Prop
  | begin (d : Document) (step : Step) (later : List Step) :
      Moves base ⟨d, [], [], step :: later⟩ .begin ⟨d, step.fills, [], later⟩
  | send (d : Document) (before after flying : List Fill) (later : List Step) (fill : Fill)
      (request : (fill.request? base).isSome) :
      Moves base ⟨d, before ++ fill :: after, flying, later⟩ (.send fill.region)
        ⟨d, before ++ after, fill :: flying, later⟩
  | put (d : Document) (before after flying : List Fill) (later : List Step) (fill : Fill)
      (request : fill.request? base = none) (outcome : Outcome) :
      Moves base ⟨d, before ++ fill :: after, flying, later⟩ (.put fill.region)
        ⟨d.write fill.region (fill.content base outcome), before ++ after, flying, later⟩
  | answer (d : Document) (idle before after : List Fill) (later : List Step) (fill : Fill)
      (outcome : Outcome) :
      Moves base ⟨d, idle, before ++ fill :: after, later⟩ (.answer fill.region outcome)
        ⟨d.write fill.region (fill.content base outcome), idle, before ++ after, later⟩

inductive Run (base : String) (w : Flow) : List Move → Flow → Prop
  | nil : Run base w [] w
  | snoc {ms : List Move} {w' w'' : Flow} {m : Move} (run : Run base w ms w')
      (move : Moves base w' m w'') : Run base w (ms ++ [m]) w''

variable {base : String}

theorem Run.trans {w w' w'' : Flow} {ms ms' : List Move} (h : Run base w ms w')
    (h' : Run base w' ms' w'') : Run base w (ms ++ ms') w'' := by
  induction h' with
  | nil => simpa using h
  | snoc _ move ih =>
    rw [← List.append_assoc]
    exact .snoc ih move

theorem Moves.run {w w' : Flow} {m : Move} (h : Moves base w m w') : Run base w [m] w' :=
  .snoc .nil h

/-- All that a move can do: it is silent, or it writes what one of the waiting fills comes to,
which then waits no more. -/
theorem Moves.silent_or_writes {w w' : Flow} {m : Move} (h : Moves base w m w') :
    (w.waiting.Perm w'.waiting ∧ w'.document = w.document ∧ m.isAnswer = false) ∨
      ∃ fill outcome, w.waiting.Perm (fill :: w'.waiting) ∧
        w'.document = w.document.write fill.region (fill.content base outcome) ∧
        (fill ∈ w.flying ∧ m = .answer fill.region outcome ∨
          fill.request? base = none ∧ m = .put fill.region) := by
  cases h with
  | begin d step later => exact .inl ⟨by simp [waiting], rfl, rfl⟩
  | send d before after flying later fill request =>
    refine .inl ⟨?_, rfl, rfl⟩
    simp only [waiting, List.append_assoc, List.cons_append]
    exact List.perm_middle.symm.append_left before
  | put d before after flying later fill request outcome =>
    refine .inr ⟨fill, outcome, ?_, rfl, .inr ⟨request, rfl⟩⟩
    simp only [waiting, List.append_assoc, List.cons_append]
    exact List.perm_middle
  | answer d idle before after later fill outcome =>
    refine .inr ⟨fill, outcome, ?_, rfl, .inl ⟨by simp, rfl⟩⟩
    simp only [waiting, List.append_assoc, List.cons_append]
    exact (List.perm_middle.append_left idle).trans List.perm_middle

theorem Moves.flying_sent {w w' : Flow} {m : Move} (h : Moves base w m w')
    (hw : ∀ f ∈ w.flying, (f.request? base).isSome) :
    ∀ f ∈ w'.flying, (f.request? base).isSome := by
  cases h with
  | begin d step later => simp
  | send d before after flying later fill request => exact List.forall_mem_cons.2 ⟨request, hw⟩
  | put d before after flying later fill request outcome => exact hw
  | answer d idle before after later fill outcome =>
    intro f hf
    simp only [List.mem_append] at hf
    exact hw f (by simp only [List.mem_append, List.mem_cons]; tauto)

/-- Where the moves `ms` on a page of these fills, which showed `d` before, have led to: a region
whose fill waits is as it was and has no answer, every other one of the page is written once, by the
one answer that it got or without any, and the regions of no fill are as they were. -/
structure Follows (base : String) (d : Document) (fills : List Fill) (ms : List Move) (w : Flow) :
    Prop where
  waiting_subset : ∀ f ∈ w.waiting, f ∈ fills
  nodup : (w.waiting.map Fill.region).Nodup
  flying_sent : ∀ f ∈ w.flying, (f.request? base).isSome
  unwritten : ∀ f ∈ w.waiting, w.document.region f.region = d.region f.region ∧
    ∀ outcome, .answer f.region outcome ∉ ms
  written : ∀ f ∈ fills, f.region ∉ w.waiting.map Fill.region → ∃ outcome,
    w.document.region f.region = (d.region f.region).write (f.content base outcome) ∧
      ∀ outcome', .answer f.region outcome' ∈ ms ↔
        (f.request? base).isSome ∧ outcome' = outcome
  other : ∀ r, r ∉ fills.map Fill.region → w.document.region r = d.region r

theorem follows_start (d : Document) {steps : List Step}
    (h : ((steps.flatMap Step.fills).map Fill.region).Nodup) :
    Follows base d (steps.flatMap Step.fills) [] (start d steps) where
  waiting_subset f hf := by simpa [start, waiting] using hf
  nodup := by simpa [start, waiting] using h
  flying_sent f hf := by simp [start] at hf
  unwritten f _ := ⟨rfl, by simp⟩
  written f hf hw := absurd (List.mem_map_of_mem hf) (by simpa [start, waiting] using hw)
  other r _ := rfl

theorem Follows.silent {d : Document} {fills : List Fill} {ms : List Move} {w w' : Flow} {m : Move}
    (h : Follows base d fills ms w) (hm : Moves base w m w') (hp : w.waiting.Perm w'.waiting)
    (hd : w'.document = w.document) (ha : m.isAnswer = false) :
    Follows base d fills (ms ++ [m]) w' := by
  have hms : ∀ r outcome, .answer r outcome ∈ ms ++ [m] ↔ .answer r outcome ∈ ms := by
    intro r outcome
    have : Move.answer r outcome ≠ m := by
      rintro rfl
      cases ha
    simp [this]
  have hr : ∀ r, r ∈ w'.waiting.map Fill.region ↔ r ∈ w.waiting.map Fill.region := fun r =>
    (hp.map Fill.region).mem_iff.symm
  refine ⟨fun f hf => h.waiting_subset f (hp.mem_iff.2 hf), (hp.map _).nodup_iff.1 h.nodup,
    hm.flying_sent h.flying_sent, fun f hf => ?_, fun f hf hw => ?_, fun r hr => ?_⟩
  · obtain ⟨h1, h2⟩ := h.unwritten f (hp.mem_iff.2 hf)
    exact ⟨by rw [hd, h1], fun outcome => by rw [hms]; exact h2 outcome⟩
  · rw [hr] at hw
    obtain ⟨outcome, h1, h2⟩ := h.written f hf hw
    exact ⟨outcome, by rw [hd, h1], fun outcome' => by rw [hms]; exact h2 outcome'⟩
  · rw [hd, h.other r hr]

theorem Follows.writes {d : Document} {fills : List Fill} (hn : (fills.map Fill.region).Nodup)
    {ms : List Move} {w w' : Flow} {m : Move} {fill : Fill} {outcome : Outcome}
    (h : Follows base d fills ms w) (hm : Moves base w m w')
    (hp : w.waiting.Perm (fill :: w'.waiting))
    (hd : w'.document = w.document.write fill.region (fill.content base outcome))
    (ha : fill ∈ w.flying ∧ m = .answer fill.region outcome ∨
      fill.request? base = none ∧ m = .put fill.region) :
    Follows base d fills (ms ++ [m]) w' := by
  have hmem : fill ∈ w.waiting := hp.mem_iff.2 List.mem_cons_self
  have hsub : ∀ f ∈ w'.waiting, f ∈ w.waiting := fun f hf =>
    hp.mem_iff.2 (List.mem_cons_of_mem _ hf)
  have hnodup := (hp.map Fill.region).nodup_iff.1 h.nodup
  simp only [List.map_cons, List.nodup_cons] at hnodup
  have hne : ∀ f ∈ w'.waiting, fill.region ≠ f.region := fun f hf he =>
    hnodup.1 (he ▸ List.mem_map_of_mem hf)
  have hms : ∀ r outcome', fill.region ≠ r →
      (.answer r outcome' ∈ ms ++ [m] ↔ .answer r outcome' ∈ ms) := by
    intro r outcome' hr
    have : Move.answer r outcome' ≠ m := by
      rintro rfl
      rcases ha with ⟨-, ha⟩ | ⟨-, ha⟩ <;> cases ha
      exact hr rfl
    simp [this]
  refine ⟨fun f hf => h.waiting_subset f (hsub f hf), hnodup.2, hm.flying_sent h.flying_sent,
    fun f hf => ?_, fun f hf hw => ?_, fun r hr => ?_⟩
  · obtain ⟨h1, h2⟩ := h.unwritten f (hsub f hf)
    refine ⟨?_, fun outcome' => ?_⟩
    · rw [hd, Document.region_write, if_neg (hne f hf), h1]
    · rw [hms _ _ (hne f hf)]
      exact h2 outcome'
  · by_cases hr : fill.region = f.region
    · -- the fill that the move is about
      obtain rfl : fill = f :=
        List.inj_on_of_nodup_map hn (h.waiting_subset fill hmem) hf hr
      obtain ⟨h1, h2⟩ := h.unwritten fill hmem
      refine ⟨outcome, ?_, fun outcome' => ?_⟩
      · rw [hd, Document.region_write, if_pos rfl, h1]
      · rcases ha with ⟨hfly, rfl⟩ | ⟨hnone, rfl⟩
        · simp [h2 outcome', h.flying_sent fill hfly]
        · simp [h2 outcome', hnone]
    · have hw' : f.region ∉ w.waiting.map Fill.region := by
        rw [(hp.map Fill.region).mem_iff]
        simpa [Ne.symm hr] using hw
      obtain ⟨outcome', h1, h2⟩ := h.written f hf hw'
      refine ⟨outcome', ?_, fun outcome'' => ?_⟩
      · rw [hd, Document.region_write, if_neg hr, h1]
      · rw [hms _ _ hr]
        exact h2 outcome''
  · have hne' : fill.region ≠ r := by
      rintro rfl
      exact hr (List.mem_map_of_mem (h.waiting_subset fill hmem))
    rw [hd, Document.region_write, if_neg hne', h.other r hr]

/-- What every run of a page with distinct regions comes to. -/
theorem follows_of_run {d : Document} {steps : List Step}
    (hn : ((steps.flatMap Step.fills).map Fill.region).Nodup) {ms : List Move} {w : Flow}
    (h : Run base (start d steps) ms w) : Follows base d (steps.flatMap Step.fills) ms w := by
  induction h with
  | nil => exact follows_start d hn
  | snoc _ move ih =>
    rcases move.silent_or_writes with ⟨hp, hd, ha⟩ | ⟨fill, outcome, hp, hd, ha⟩
    · exact ih.silent move hp hd ha
    · exact ih.writes hn move hp hd ha

section Concurrent

variable {d : Document} {step : Step}

theorem Follows.region_of_done {fills : List Fill} {ms : List Move} {w : Flow}
    (h : Follows base d fills ms w) (hw : w.waiting = []) {fill : Fill} (hf : fill ∈ fills) :
    ∃ outcome, w.document.region fill.region =
        (d.region fill.region).write (fill.content base outcome) ∧
      ((fill.request? base).isSome → .answer fill.region outcome ∈ ms) := by
  obtain ⟨outcome, h1, h2⟩ := h.written fill hf (by simp [hw])
  exact ⟨outcome, h1, fun hq => (h2 outcome).2 ⟨hq, rfl⟩⟩

theorem document_eq_of_regions {d d' : Document} (h : ∀ r, d.region r = d'.region r) : d = d' := by
  obtain ⟨a, b, c, e, f⟩ := d
  obtain ⟨a', b', c', e', f'⟩ := d'
  obtain rfl : a = a' := h .details
  obtain rfl : b = b' := h .reviews
  obtain rfl : c = c' := h .reservationMessage
  obtain rfl : e = e' := h .reservations
  obtain rfl : f = f' := h .popular
  rfl

end Concurrent

end Flow

end Bistro
