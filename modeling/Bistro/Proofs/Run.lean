import Bistro.Proofs.Operation

/-!
# Runs of operations

A run of operations on one document is followed region by region. Each operation writes each of its
targets once and leaves the other regions as they are (`region_perform`), so the writes of a region
count the operations that are for it, and what it shows is what the last of them wrote. What a run
asks of the backend is read off a backend that writes its requests down (`performAll_recorded`).
-/

namespace Bistro

variable {σ : Type}

/-- The backend, writing down what it is asked. -/
def Backend.recorded (backend : Backend σ) : Backend (σ × List Request) where
  exchange state requests :=
    let (outcomes, next) := backend.exchange state.1 requests
    (outcomes, next, state.2 ++ requests)

namespace Visit

def document (v : Visit σ) : Document :=
  v.progress.document

/-- A visit before anything happened, to a backend in that state. -/
def start (state : σ) : Visit σ :=
  ⟨⟨.fresh, state⟩, 0⟩

/-- Performs operations one after the other. -/
def performAll (backend : Backend σ) (base : String) (ops : List Operation) (v : Visit σ) :
    Visit σ :=
  ops.foldl (fun v op => v.perform backend base op) v

/-- What the operation writes to a region, as the backend answers in this state of the visit. -/
def written (backend : Backend σ) (base : String) (op : Operation) (v : Visit σ) (r : RegionId) :
    Content :=
  op.written base (backend.exchange v.progress.state (op.requests base)).1 r

/-- An operation writes each of its targets once, and nothing else. -/
theorem region_perform (backend : Backend σ) (base : String) (op : Operation) (v : Visit σ)
    (r : RegionId) :
    (v.perform backend base op).document.region r =
      if r ∈ op.targets then (v.document.region r).write (v.written backend base op r)
      else v.document.region r := by
  have hn : (op.step.fills.map Fill.region).Nodup := by
    rw [op.map_region_fills]
    exact op.nodup_targets
  simp only [document, perform, Step.document_run, Step.region_finish hn, op.find?_fills,
    op.place_step, op.requests_step]
  by_cases h : r ∈ op.targets
  · simp only [h, if_true, Operation.content_submit, written]
  · simp only [h, if_false]

theorem prevented_perform (backend : Backend σ) (base : String) (op : Operation) (v : Visit σ) :
    (v.perform backend base op).prevented = v.prevented + if op.isSubmit then 1 else 0 := by
  simp only [perform, op.prevents_eq]

theorem call?_perform (backend : Backend σ) (base : String) (op : Operation) (v : Visit σ) :
    (v.perform backend base op).progress.events.filterMap Event.call? =
      v.progress.events.filterMap Event.call? ++ op.calls.map Call.noted :=
  op.call?_finish base _ _

theorem writes_performAll (backend : Backend σ) (base : String) (r : RegionId) :
    ∀ (ops : List Operation) (v : Visit σ),
      ((v.performAll backend base ops).document.region r).writes =
        (v.document.region r).writes + (ops.flatMap Operation.targets).count r
  | [], _ => rfl
  | op :: ops, v => by
    have ih := writes_performAll backend base r ops (v.perform backend base op)
    have hone : op.targets.count r = if r ∈ op.targets then 1 else 0 :=
      op.nodup_targets.count
    rw [performAll, List.foldl_cons, ← performAll, ih, region_perform, List.flatMap_cons,
      List.count_append, hone]
    split
    · simp only [Region.write]
      omega
    · omega

theorem region_performAll_of_notMem (backend : Backend σ) (base : String) {r : RegionId} :
    ∀ (ops : List Operation) (v : Visit σ), r ∉ ops.flatMap Operation.targets →
      (v.performAll backend base ops).document.region r = v.document.region r
  | [], _, _ => rfl
  | op :: ops, v, h => by
    simp only [List.flatMap_cons, List.mem_append, not_or] at h
    rw [performAll, List.foldl_cons, ← performAll,
      region_performAll_of_notMem backend base ops _ h.2, region_perform, if_neg h.1]

theorem prevented_performAll (backend : Backend σ) (base : String) :
    ∀ (ops : List Operation) (v : Visit σ),
      (v.performAll backend base ops).prevented = v.prevented + ops.countP Operation.isSubmit
  | [], _ => rfl
  | op :: ops, v => by
    rw [performAll, List.foldl_cons, ← performAll, prevented_performAll backend base ops,
      prevented_perform, List.countP_cons]
    omega

theorem call?_performAll (backend : Backend σ) (base : String) :
    ∀ (ops : List Operation) (v : Visit σ),
      (v.performAll backend base ops).progress.events.filterMap Event.call? =
        v.progress.events.filterMap Event.call? ++
          (ops.flatMap Operation.calls).map Call.noted
  | [], _ => by simp [performAll]
  | op :: ops, v => by
    rw [performAll, List.foldl_cons, ← performAll, call?_performAll backend base ops,
      call?_perform, List.flatMap_cons, List.map_append, List.append_assoc]

/-- The visit to the backend that writes down what it is asked, with that written down so far. -/
def withLog (v : Visit σ) (log : List Request) : Visit (σ × List Request) :=
  ⟨⟨v.progress.toTrace, (v.progress.state, log)⟩, v.prevented⟩

theorem perform_recorded (backend : Backend σ) (base : String) (op : Operation) (v : Visit σ)
    (log : List Request) :
    (v.withLog log).perform backend.recorded base op =
      (v.perform backend base op).withLog (log ++ op.requests base) := by
  simp [withLog, perform, Step.run, Backend.recorded, op.requests_step]

/-- Writing down the requests changes nothing, and they are those of the operations, in order. -/
theorem performAll_recorded (backend : Backend σ) (base : String) :
    ∀ (ops : List Operation) (v : Visit σ) (log : List Request),
      (v.withLog log).performAll backend.recorded base ops =
        (v.performAll backend base ops).withLog (log ++ ops.flatMap (Operation.requests base))
  | [], v, log => by simp [performAll]
  | op :: ops, v, log => by
    rw [performAll, List.foldl_cons, ← performAll, perform_recorded,
      performAll_recorded backend base ops, List.flatMap_cons, List.append_assoc]
    rfl

theorem performAll_append (backend : Backend σ) (base : String) (before later : List Operation)
    (v : Visit σ) :
    v.performAll backend base (before ++ later) =
      (v.performAll backend base before).performAll backend base later :=
  List.foldl_append

/-- Over a whole run on one document, with whatever the backend answers at each step: a region's
writes count the operations that are for it, and it is empty if there are none. Every single
operation writes to each of its targets by the answer to that target's call, never leaves it empty,
and leaves all other regions as they are; what the last operation for a region wrote stays to the
end. A submit keeps the browser on the page once. Each operation makes one call for each of its
targets, or none if its form is refused, and no call is repeated: the calls that are noted, and the
requests that reach the backend, are those of the operations, in order. -/
theorem run_fills_targets (backend : Backend σ) (base : String) (state : σ)
    (ops : List Operation) :
    let after := (start state).performAll backend base ops
    (∀ r, (after.document.region r).writes = (ops.flatMap Operation.targets).count r) ∧
      (∀ r, r ∉ ops.flatMap Operation.targets → (after.document.region r).content = .empty) ∧
      (∀ before op later, ops = before ++ op :: later →
        let v := (start state).performAll backend base before
        let w := v.perform backend base op
        w.prevented = v.prevented + (if op.isSubmit then 1 else 0) ∧
          (∀ r ∈ op.targets,
            w.document.region r = (v.document.region r).write (v.written backend base op r) ∧
              v.written backend base op r ≠ .empty ∧
              (r ∉ later.flatMap Operation.targets →
                after.document.region r = w.document.region r)) ∧
          ∀ r, r ∉ op.targets → w.document.region r = v.document.region r) ∧
      after.prevented = ops.countP Operation.isSubmit ∧
      (∀ op ∈ ops, op.calls.length + (if op.refused then 1 else 0) = op.targets.length) ∧
      after.progress.events.filterMap Event.call? =
        (ops.flatMap Operation.calls).map Call.noted ∧
      (start (state, [])).performAll backend.recorded base ops =
        after.withLog (ops.flatMap (Operation.requests base)) := by
  intro after
  refine ⟨fun r => ?_, fun r hr => ?_, ?_, ?_, fun op _ => op.length_calls, ?_, ?_⟩
  · rw [writes_performAll backend base r ops]
    simp [start, document, Trace.fresh, Region.fresh]
  · rw [region_performAll_of_notMem backend base ops _ hr]
    simp [start, document, Trace.fresh, Region.fresh]
  · rintro before op later rfl v w
    refine ⟨prevented_perform backend base op v, fun r hr => ⟨?_, ?_, fun hlater => ?_⟩,
      fun r hr => ?_⟩
    · rw [region_perform, if_pos hr]
    · exact op.written_ne_empty base _ r
    · have hafter : after = w.performAll backend base later := performAll_append ..
      rw [hafter, region_performAll_of_notMem backend base later w hlater]
    · rw [region_perform, if_neg hr]
  · rw [prevented_performAll]
    simp [start]
  · rw [call?_performAll]
    simp [start, Trace.fresh]
  · exact performAll_recorded backend base ops (start state) []

end Visit

end Bistro
