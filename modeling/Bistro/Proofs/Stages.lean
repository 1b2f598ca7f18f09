import Bistro.Proofs.Step
import Bistro.Service.Pages
import Mathlib.Data.List.Nodup

/-!
# Pages region by region

A page is made by stages, the fills of its steps, and the requests of a stage are made together.
Where the regions of all fills are distinct, each of them is written once, by how its own exchange
ended (`PagePlan.region_run`), and no other region is written (`PagePlan.region_run_of_notMem`).
-/

namespace Bistro

variable {σ : Type}

namespace Step

/-- The state in which the backend is when the stages are done. -/
def stateAfter (backend : Backend σ) (base : String) (state : σ) (stages : List (List Fill)) : σ :=
  stages.foldl (fun s fills => (backend.exchange s (fills.filterMap (Fill.request? base))).2) state

/-- How the exchange of a fill ends: it is made together with those of its stage, when the stages
before are done, and has its place behind those of the fills in front. -/
inductive Ends (backend : Backend σ) (base : String) (state : σ) (stages : List (List Fill))
    (fill : Fill) : Outcome → Prop
  | intro (before after : List (List Fill)) (front back : List Fill)
      (stages_eq : stages = before ++ (front ++ fill :: back) :: after) :
      Ends backend base state stages fill <|
        (backend.exchange (stateAfter backend base state before)
            ((front ++ fill :: back).filterMap (Fill.request? base))).1
          (front.filterMap (Fill.request? base)).length

variable {backend : Backend σ} {base : String}

/-- The exchange of a fill in a later stage starts where the first one leaves the backend. -/
theorem Ends.cons {state : σ} {fills : List Fill} {stages : List (List Fill)} {fill : Fill}
    {outcome : Outcome}
    (h : Ends backend base (backend.exchange state (fills.filterMap (Fill.request? base))).2 stages
      fill outcome) :
    Ends backend base state (fills :: stages) fill outcome := by
  obtain ⟨before, after, front, back, rfl⟩ := h
  exact .intro (fills :: before) after front back rfl

/-- An exchange ends by the request that is at its place. -/
theorem Ends.exchange_eq {state : σ} {stages : List (List Fill)} {fill : Fill} {outcome : Outcome}
    (h : Ends backend base state stages fill outcome) {q : Request}
    (hq : fill.request? base = some q) :
    ∃ s requests i, requests[i]? = some q ∧ (backend.exchange s requests).1 i = outcome := by
  obtain ⟨before, after, front, back, -⟩ := h
  refine ⟨_, _, _, ?_, rfl⟩
  rw [List.filterMap_append, List.filterMap_cons_some hq,
    List.getElem?_append_right (Nat.le_refl _), Nat.sub_self, List.getElem?_cons_zero]

section Split

variable {front back : List Fill} {fill : Fill}

theorem ne_of_nodup_split (h : ((front ++ fill :: back).map Fill.region).Nodup) :
    ∀ f ∈ front, f.region ≠ fill.region := by
  intro f hf
  rw [List.map_append, List.nodup_append] at h
  exact h.2.2 _ (List.mem_map_of_mem hf) _ (by simp)

theorem find?_split (h : ((front ++ fill :: back).map Fill.region).Nodup) :
    ((front ++ fill :: back).find? fun f => f.region = fill.region) = some fill := by
  have hfront : (front.find? fun f => f.region = fill.region) = none :=
    List.find?_eq_none.2 fun f hf => by simpa using ne_of_nodup_split h f hf
  simp [List.find?_append, hfront]

theorem place_split (h : ((front ++ fill :: back).map Fill.region).Nodup) :
    place base (front ++ fill :: back) fill.region =
      (front.filterMap (Fill.request? base)).length := by
  have hfront : ∀ f ∈ front, decide (f.region ≠ fill.region) = true := fun f hf =>
    decide_eq_true (ne_of_nodup_split h f hf)
  rw [place, List.takeWhile_append_of_pos hfront, List.takeWhile_cons_of_neg (by simp),
    List.append_nil]

/-- A step writes what the exchange of the fill comes to. -/
theorem region_run_split {step : Step} (hfills : step.fills = front ++ fill :: back)
    (h : (step.fills.map Fill.region).Nodup) (p : Progress σ) :
    (step.run backend base p).document.region fill.region =
      (p.document.region fill.region).write (fill.content base
        ((backend.exchange p.state (step.requests base)).1
          (front.filterMap (Fill.request? base)).length)) := by
  rw [document_run, region_finish h]
  rw [hfills] at h
  rw [hfills, find?_split h, place_split h]

end Split

theorem region_run_of_notMem {r : RegionId} :
    ∀ (steps : List Step) (p : Progress σ), ((steps.flatMap Step.fills).map Fill.region).Nodup →
      r ∉ (steps.flatMap Step.fills).map Fill.region →
      (steps.foldl (fun p step => step.run backend base p) p).document.region r =
        p.document.region r
  | [], _, _, _ => rfl
  | step :: steps, p, h, hr => by
    simp only [List.flatMap_cons, List.map_append, List.mem_append, not_or] at h hr
    have hnone : (step.fills.find? fun f => f.region = r) = none :=
      List.find?_eq_none.2 fun f hf hfr => hr.1 (List.mem_map.2 ⟨f, hf, of_decide_eq_true hfr⟩)
    rw [List.foldl_cons, region_run_of_notMem steps _ (List.nodup_append.1 h).2.1 hr.2,
      document_run, region_finish (List.nodup_append.1 h).1, hnone]

/-- A run of steps writes each of its regions once, by how its own exchange ended. -/
theorem region_run (backend : Backend σ) (base : String) {fill : Fill} (steps : List Step)
    (p : Progress σ) (h : ((steps.flatMap Step.fills).map Fill.region).Nodup)
    (hfill : fill ∈ steps.flatMap Step.fills) :
    ∃ outcome, Ends backend base p.state (steps.map Step.fills) fill outcome ∧
      (steps.foldl (fun p step => step.run backend base p) p).document.region fill.region =
        (p.document.region fill.region).write (fill.content base outcome) := by
  induction steps generalizing p with
  | nil => cases hfill
  | cons step steps ih =>
    simp only [List.flatMap_cons, List.map_append, List.mem_append] at h hfill
    obtain ⟨hstep, hsteps, hdisjoint⟩ := List.nodup_append.1 h
    rw [List.foldl_cons]
    rcases hfill with hfill | hfill
    · -- the later steps leave the region as this one wrote it
      have hlater : fill.region ∉ (steps.flatMap Step.fills).map Fill.region := fun hmem =>
        hdisjoint _ (List.mem_map_of_mem hfill) _ hmem rfl
      obtain ⟨front, back, hfills⟩ := List.append_of_mem hfill
      refine ⟨_, .intro [] _ front back (by rw [List.map_cons, hfills]; rfl), ?_⟩
      rw [region_run_of_notMem steps _ hsteps hlater, region_run_split hfills hstep,
        Step.requests, hfills]
      rfl
    · obtain ⟨outcome, hends, hregion⟩ := ih (step.run backend base p) hsteps hfill
      have hfirst : fill.region ∉ step.fills.map Fill.region := fun hmem =>
        hdisjoint _ hmem _ (List.mem_map_of_mem hfill) rfl
      have hkept : (step.run backend base p).document.region fill.region =
          p.document.region fill.region :=
        region_run_of_notMem [step] p (by simpa using hstep) (by simpa using hfirst)
      exact ⟨outcome, hends.cons, hkept ▸ hregion⟩

end Step

namespace PagePlan

variable {plan : PagePlan}

theorem region_run (h : ((plan.steps.flatMap Step.fills).map Fill.region).Nodup)
    (backend : Backend σ) (base : String) (state : σ) {fill : Fill}
    (hfill : fill ∈ plan.steps.flatMap Step.fills) :
    ∃ outcome, Step.Ends backend base state (plan.steps.map Step.fills) fill outcome ∧
      (plan.run backend base state).document.region fill.region =
        Region.fresh.write (fill.content base outcome) := by
  obtain ⟨outcome, hends, hregion⟩ :=
    Step.region_run backend base plan.steps ⟨.fresh, state⟩ h hfill
  have hfresh : Trace.fresh.document.region fill.region = .fresh := Document.region_fresh _
  exact ⟨outcome, hends, hfresh ▸ hregion⟩

theorem region_run_of_notMem (h : ((plan.steps.flatMap Step.fills).map Fill.region).Nodup)
    (backend : Backend σ) (base : String) (state : σ) {r : RegionId}
    (hr : r ∉ (plan.steps.flatMap Step.fills).map Fill.region) :
    (plan.run backend base state).document.region r = .fresh :=
  (Step.region_run_of_notMem plan.steps ⟨.fresh, state⟩ h hr).trans (Document.region_fresh r)

end PagePlan

end Bistro
