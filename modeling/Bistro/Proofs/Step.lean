import Bistro.Page.Operation

/-!
# What a step writes

The regions of a step's fills are distinct, so a step writes each of them once (`region_finish`),
with a content that depends on the ending of that fill's own call alone (`content_settle`). A call
whose request cannot be made ends by itself; every other one ends as its exchange does.
-/

namespace Bistro

variable {σ : Type}

namespace Call

/-- What a region shows when the call that fills it ends like that. -/
def content (c : Call) (ending : Outcome) : Content :=
  match c.conclude ending with
  | .ok answer => .rendered (c.fragment answer)
  | .error t => .failed t.message

theorem isSuccess_iff (status : Nat) : isSuccess status = true ↔ 200 ≤ status ∧ status ≤ 299 := by
  simp [isSuccess]

theorem content_of_success (c : Call) {a : Bistro.Answer} (h : 200 ≤ a.status ∧ a.status ≤ 299) :
    c.content (.ok a) =
      match c.read a.text with
      | .ok answer => .rendered (c.fragment answer)
      | .error e => .failed (Trouble.parse c.endpoint.path e.message).message := by
  rw [content, conclude, if_pos ((isSuccess_iff _).2 h)]
  cases c.read a.text <;> rfl

theorem content_of_rejection (c : Call) {a : Bistro.Answer}
    (h : ¬ (200 ≤ a.status ∧ a.status ≤ 299)) :
    c.content (.ok a) =
      .failed (Trouble.rejected c.endpoint.path a.status (trim a.text)).message := by
  rw [content, conclude, if_neg (mt (isSuccess_iff _).1 h)]

theorem content_of_failure (c : Call) (f : Failure) :
    c.content (.error f) = .failed (Trouble.network f.message).message :=
  rfl

/-- The request of the call, if it can be made. -/
def request? (base : String) (c : Call) : Option Request :=
  (c.request base).toOption

/-- How the call ends if the exchange of its request, where it has one, ends as `outcome` says. -/
def ending (base : String) (c : Call) (outcome : Outcome) : Outcome :=
  match c.request base with
  | .ok _ => outcome
  | .error f => .error f

/-- A call without a request ends in the same way whatever happens. -/
theorem ending_congr {base : String} {c : Call} (h : c.request? base = none)
    (outcome outcome' : Outcome) : c.ending base outcome = c.ending base outcome' := by
  unfold request? at h
  unfold ending
  split
  · rename_i hq
    rw [hq] at h
    cases h
  · rfl

end Call

namespace Fill

/-- What the fill writes to its region if its exchange, where it has one, ends as `outcome` says. -/
def content (base : String) (outcome : Outcome) : Fill → Content
  | .ask _ call => call.content (call.ending base outcome)
  | .put _ content => content

@[simp] theorem region_ask (r : RegionId) (c : Call) : (Fill.ask r c).region = r := rfl

@[simp] theorem region_put (r : RegionId) (x : Content) : (Fill.put r x).region = r := rfl

theorem region_conclude (outcome : Outcome) (fill : Fill) :
    (fill.conclude outcome).region = fill.region := by
  rcases fill with ⟨r, c⟩ | ⟨r, _ | f | text⟩
  · simp only [conclude]
    split <;> rfl
  all_goals rfl

theorem content_conclude (outcome : Outcome) (r : RegionId) (c : Call) :
    ((Fill.ask r c).conclude outcome).content = c.content outcome := by
  rcases h : c.conclude outcome with t | answer <;> simp [conclude, Call.content, h, unfilled]

theorem region_settle (base : String) (outcome : Outcome) (fill : Fill) :
    (fill.settle base outcome).region = fill.region := by
  unfold settle
  split
  · split <;> exact region_conclude _ _
  · exact region_conclude _ _

theorem content_settle (base : String) (outcome : Outcome) (fill : Fill) :
    (fill.settle base outcome).content = fill.content base outcome := by
  rcases fill with ⟨r, c⟩ | ⟨r, _ | f | text⟩
  · rcases h : c.request base with f | q <;>
      simp only [settle, content, Call.ending, h, content_conclude]
  all_goals simp only [settle, conclude, content, unfilled]

/-- A fill that makes no request writes the same whatever happens. -/
theorem content_congr {base : String} {fill : Fill} (h : fill.request? base = none)
    (outcome outcome' : Outcome) : fill.content base outcome = fill.content base outcome' := by
  rcases fill with ⟨r, c⟩ | ⟨r, x⟩
  · simp only [content]
    rw [Call.ending_congr h outcome outcome']
  · rfl

end Fill

namespace Step

/-- The place of a region's request among those of the fills. -/
def place (base : String) (fills : List Fill) (r : RegionId) : Nat :=
  ((fills.takeWhile fun f => f.region ≠ r).filterMap (Fill.request? base)).length

theorem place_cons_self (base : String) (fill : Fill) (fills : List Fill) :
    place base (fill :: fills) fill.region = 0 := by
  simp [place]

theorem place_cons_of_ne (base : String) {fill : Fill} {r : RegionId} (h : fill.region ≠ r)
    (fills : List Fill) :
    place base (fill :: fills) r =
      place base fills r + if (fill.request? base).isSome then 1 else 0 := by
  unfold place
  rw [List.takeWhile_cons_of_pos (by simpa using h)]
  rcases hq : fill.request? base with _ | q <;> simp [hq]

theorem map_region_settleAll (base : String) (outcomes : Nat → Outcome) :
    ∀ (i : Nat) (fills : List Fill),
      (settleAll base outcomes i fills).map Settled.region = fills.map Fill.region
  | _, [] => rfl
  | i, fill :: rest => by
    simp only [settleAll, List.map_cons, Fill.region_settle]
    rw [map_region_settleAll base outcomes _ rest]

/-- The fill of a region gets the outcome at its own place. -/
theorem find?_settleAll (base : String) (outcomes : Nat → Outcome) (r : RegionId) :
    ∀ (i : Nat) (fills : List Fill),
      (settleAll base outcomes i fills).find? (fun s => s.region = r) =
        (fills.find? fun f => f.region = r).map fun f =>
          f.settle base (outcomes (i + place base fills r))
  | _, [] => rfl
  | i, fill :: rest => by
    by_cases h : fill.region = r
    · subst h
      simp [settleAll, Fill.region_settle, place_cons_self]
    · rw [settleAll, List.find?_cons_of_neg (by simpa [Fill.region_settle] using h),
        List.find?_cons_of_neg (by simpa using h), find?_settleAll base outcomes r _ rest,
        place_cons_of_ne base h]
      split <;> simp [Nat.add_assoc, Nat.add_comm]

theorem region_foldl_write_of_notMem (r : RegionId) :
    ∀ (settled : List Settled) (d : Document), r ∉ settled.map Settled.region →
      (settled.foldl (fun d s => d.write s.region s.content) d).region r = d.region r
  | [], _, _ => rfl
  | s :: rest, d, h => by
    simp only [List.map_cons, List.mem_cons, not_or] at h
    rw [List.foldl_cons, region_foldl_write_of_notMem r rest _ h.2, Document.region_write,
      if_neg (Ne.symm h.1)]

/-- Among writes to distinct regions, each region sees its own. -/
theorem region_foldl_write (r : RegionId) :
    ∀ (settled : List Settled) (d : Document), (settled.map Settled.region).Nodup →
      (settled.foldl (fun d s => d.write s.region s.content) d).region r =
        match settled.find? fun s => s.region = r with
        | some s => (d.region r).write s.content
        | none => d.region r
  | [], _, _ => rfl
  | s :: rest, d, h => by
    obtain ⟨hs, hrest⟩ := List.nodup_cons.1 h
    rw [List.foldl_cons]
    by_cases hr : s.region = r
    · subst hr
      rw [region_foldl_write_of_notMem _ rest _ hs, Document.region_write, if_pos rfl]
      simp
    · rw [region_foldl_write r rest _ hrest, Document.region_write, if_neg hr,
        List.find?_cons_of_neg (by simpa using hr)]

/-- A step writes each of its regions once, by the outcome at the place of that region's request,
and no other region. -/
theorem region_finish {step : Step} (h : (step.fills.map Fill.region).Nodup) (base : String)
    (outcomes : Nat → Outcome) (t : Trace) (r : RegionId) :
    (step.finish base outcomes t).document.region r =
      match step.fills.find? fun f => f.region = r with
      | some fill =>
        (t.document.region r).write (fill.content base (outcomes (place base step.fills r)))
      | none => t.document.region r := by
  simp only [finish]
  rw [region_foldl_write r _ _ (by rwa [map_region_settleAll]), find?_settleAll]
  cases step.fills.find? fun f => f.region = r with
  | none => rfl
  | some fill => simp [Fill.content_settle]

theorem document_run (backend : Backend σ) (base : String) (step : Step) (p : Progress σ) :
    (step.run backend base p).document =
      (step.finish base (backend.exchange p.state (step.requests base)).1 p.toTrace).document :=
  rfl

end Step

end Bistro
