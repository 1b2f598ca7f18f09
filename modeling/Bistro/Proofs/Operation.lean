import Bistro.Proofs.Step

/-!
# What operations write and ask

An operation is for one region, or for two when a page is ready. Each of them is filled by the
answer to one call (`fills_step`), unless a form lacks the number that its request needs: then there
is no call, and the region says so. So an operation makes as many calls as it has regions, or none
(`length_calls`), and notes each of them once (`call?_finish`).
-/

namespace Bistro

variable {σ : Type}

theorem RegionId.find?_eq (r : RegionId) :
    ∀ l : List RegionId, (l.find? fun r' => r' = r) = if r ∈ l then some r else none
  | [] => rfl
  | r' :: l => by
    by_cases h : r' = r
    · simp [h]
    · rw [List.find?_cons_of_neg (by simpa using h), RegionId.find?_eq r l]
      simp [Ne.symm h]

namespace Operation

/-- The regions that the operation is for. -/
def targets : Operation → List RegionId
  | .ready _ => [.details, .reviews]
  | .loadDetails r _ | .loadReviews r _ | .searchReviews r _ | .loadReservation r _
  | .loadPopular r _ | .submitReservation r _ | .submitReview r _ | .submitRestaurant r _ => [r]

/-- The call whose answer the operation shows in a region, or what is wrong with its form. -/
def callFor : Operation → RegionId → Except Trouble Call
  | .ready restaurant, .details => .ok (.detail restaurant)
  | .ready restaurant, _ => .ok (.review restaurant)
  | .loadDetails _ restaurant, _ => .ok (.detail restaurant)
  | .loadReviews _ restaurant, _ => .ok (.review restaurant)
  | .searchReviews _ restaurant, _ => .ok (.search restaurant)
  | .loadReservation _ user, _ => .ok (.reservation user)
  | .loadPopular _ count, _ => .ok (.popular count)
  | .submitReservation _ form, _ => .ok (.reserve form.reservation)
  | .submitReview _ form, _ => form.review.map .postReview
  | .submitRestaurant _ form, _ => form.restaurant.map .postDetail

def calls (op : Operation) : List Call :=
  op.targets.filterMap fun r => (op.callFor r).toOption

def requests (base : String) (op : Operation) : List Request :=
  op.calls.filterMap (Call.request? base)

/-- The place of the request for a region among those of the operation. -/
def place (base : String) (op : Operation) (r : RegionId) : Nat :=
  ((op.targets.takeWhile (· ≠ r)).filterMap fun r =>
    (op.callFor r).toOption.bind (Call.request? base)).length

/-- What the operation writes to a region, if the exchanges of its requests end as `outcomes`
says. -/
def written (base : String) (outcomes : Nat → Outcome) (op : Operation) (r : RegionId) : Content :=
  match op.callFor r with
  | .ok c => c.content (c.ending base (outcomes (op.place base r)))
  | .error t => .failed t.message

def refused : Operation → Bool
  | .submitReview _ form => !(form.number .rating).isOk
  | .submitRestaurant _ form => !(form.number .capacity).isOk
  | _ => false

def isSubmit : Operation → Bool
  | .submitReservation .. | .submitReview .. | .submitRestaurant .. => true
  | _ => false

/-- Everything that the step of an operation does: it fills each target by the call for it. -/
theorem fills_step (op : Operation) :
    op.step.fills = op.targets.map fun r => submit r (op.callFor r) := by
  cases op <;> simp [step, targets, callFor, submit]

theorem region_submit (r : RegionId) (call : Except Trouble Call) : (submit r call).region = r := by
  cases call <;> rfl

theorem request?_submit (base : String) (r : RegionId) (call : Except Trouble Call) :
    (submit r call).request? base = call.toOption.bind (Call.request? base) := by
  cases call with
  | ok c => simp only [submit, Fill.request?, Except.toOption, Option.bind_some, Call.request?]
  | error t => rfl

theorem map_region_fills (op : Operation) : op.step.fills.map Fill.region = op.targets := by
  rw [fills_step, List.map_map]
  exact (List.map_congr_left fun r _ => region_submit r _).trans (List.map_id _)

theorem nodup_targets (op : Operation) : op.targets.Nodup := by
  cases op <;> simp [targets]

theorem requests_step (base : String) (op : Operation) :
    op.step.requests base = op.requests base := by
  simp only [Step.requests, fills_step, requests, calls, List.filterMap_map,
    List.filterMap_filterMap, Function.comp_def, request?_submit]

theorem place_step (base : String) (op : Operation) (r : RegionId) :
    Step.place base op.step.fills r = op.place base r := by
  simp only [Step.place, place, fills_step, List.takeWhile_map, List.filterMap_map,
    Function.comp_def, request?_submit, region_submit]

theorem find?_fills (op : Operation) (r : RegionId) :
    (op.step.fills.find? fun f => f.region = r) =
      if r ∈ op.targets then some (submit r (op.callFor r)) else none := by
  simp only [fills_step, List.find?_map, Function.comp_def, region_submit, RegionId.find?_eq]
  split <;> rfl

theorem prevents_eq (op : Operation) : op.prevents = if op.isSubmit then 1 else 0 := by
  cases op <;> rfl

/-- A form is refused exactly if there is no call for it. -/
theorem isOk_callFor (op : Operation) (r : RegionId) : (op.callFor r).isOk = !op.refused := by
  cases op with
  | ready restaurant => cases r <;> rfl
  | submitReview r' form =>
    simp only [callFor, refused, Form.review]
    cases form.number .rating <;> rfl
  | submitRestaurant r' form =>
    simp only [callFor, refused, Form.restaurant]
    cases form.number .capacity <;> rfl
  | _ => rfl

theorem length_targets_of_refused {op : Operation} (h : op.refused) : op.targets.length = 1 := by
  cases op with
  | submitReview r form => rfl
  | submitRestaurant r form => rfl
  | _ => cases h

/-- One call for each region, or none at all if the form is refused. -/
theorem length_calls (op : Operation) :
    op.calls.length + (if op.refused then 1 else 0) = op.targets.length := by
  have hcall : ∀ r, (op.callFor r).toOption.isSome = !op.refused := by
    intro r
    rw [← op.isOk_callFor r]
    cases op.callFor r <;> rfl
  by_cases h : op.refused
  · have hnone : op.calls = [] := by
      refine List.filterMap_eq_nil_iff.2 fun r _ => ?_
      simpa [h] using hcall r
    rw [hnone, if_pos h, length_targets_of_refused h]
    rfl
  · have hsome : op.calls.length = op.targets.length := by
      rw [calls, List.length_filterMap_eq_countP, List.countP_eq_length]
      intro r _
      simpa [h] using hcall r
    rw [hsome, if_neg h, Nat.add_zero]

/-- A region that is written to is not left empty. -/
theorem written_ne_empty (base : String) (outcomes : Nat → Outcome) (op : Operation)
    (r : RegionId) : op.written base outcomes r ≠ .empty := by
  unfold written
  split
  · unfold Call.content
    split <;> simp
  · simp

/-- A refused form is told so, whatever the backend does. -/
theorem written_of_refused {op : Operation} (h : op.refused) (base : String)
    (outcomes : Nat → Outcome) (r : RegionId) :
    ∃ text, op.written base outcomes r = .failed text := by
  have hcall := op.isOk_callFor r
  unfold written
  split
  · rename_i hc
    rw [hc, h] at hcall
    cases hcall
  · exact ⟨_, rfl⟩

theorem content_submit (base : String) (outcomes : Nat → Outcome) (op : Operation) (r : RegionId) :
    (submit r (op.callFor r)).content base (outcomes (op.place base r)) =
      op.written base outcomes r := by
  unfold written
  cases op.callFor r <;> rfl

end Operation

/-- The endpoint and the parameters of a call, where the event is one. -/
def Event.call? : Event → Option (String × String)
  | .called endpoint input _ => some (endpoint, input)
  | _ => none

def Call.noted (c : Call) : String × String :=
  (c.endpoint.path, c.input)

theorem Fill.call?_conclude (r : RegionId) (c : Call) (outcome : Outcome) :
    ((Fill.ask r c).conclude outcome).events.filterMap Event.call? = [c.noted] := by
  rcases h : c.conclude outcome with t | answer <;>
    simp [Fill.conclude, h, unfilled, Event.call?, Call.noted]

theorem Operation.call?_submit (base : String) (outcome : Outcome) (r : RegionId)
    (call : Except Trouble Call) :
    ((Operation.submit r call).settle base outcome).events.filterMap Event.call? =
      (call.toOption.map Call.noted).toList := by
  cases call with
  | ok c =>
    rcases h : c.request base with f | q <;>
      simp only [Operation.submit, Fill.settle, h, Fill.call?_conclude, Except.toOption,
        Option.map_some, Option.toList_some]
  | error t => rfl

theorem Operation.call?_settleAll (base : String) (outcomes : Nat → Outcome) (op : Operation) :
    ∀ (i : Nat) (rs : List RegionId),
      ((Step.settleAll base outcomes i (rs.map fun r => submit r (op.callFor r))).flatMap
        (·.events)).filterMap Event.call? =
        (rs.filterMap fun r => (op.callFor r).toOption).map Call.noted
  | _, [] => rfl
  | i, r :: rs => by
    simp only [List.map_cons, Step.settleAll, List.flatMap_cons, List.filterMap_append,
      call?_submit, call?_settleAll base outcomes op _ rs, List.filterMap_cons]
    cases (op.callFor r).toOption <;> rfl

/-- Every call is noted once, whatever its answer is, and nothing else is noted as one. -/
theorem Operation.call?_finish (base : String) (outcomes : Nat → Outcome) (op : Operation)
    (t : Trace) :
    (op.step.finish base outcomes t).events.filterMap Event.call? =
      t.events.filterMap Event.call? ++ op.calls.map Call.noted := by
  have hnotes : op.step.notes.filterMap Event.call? = [] := by cases op <;> rfl
  simp only [Step.finish, List.filterMap_append, hnotes, List.append_nil, op.fills_step,
    call?_settleAll, calls]

end Bistro
