import Bistro.Page.Log
import Bistro.Proofs.FormNumbers
import Bistro.Proofs.Results
import Bistro.Proofs.RoundTrip

/-!
# What the log tells

Every call of an operation has one entry in the log, with its result, and every region that it
leaves with a failure has one warning, with the text that the region shows (`Visit.tells`). There
are no other entries but the note that a page is being loaded, and those of a run are the entries
of its operations, each as if it had been performed on its own (`Visit.entries_performAll`). The
parameters in the entry of a call are read back as those that its query carries
(`Call.read_input`).
-/

namespace Bistro

variable {σ : Type}

def Entry.isCall : Entry → Bool
  | .call .. => true
  | .message .. => false

def Call.entry (c : Call) (result : Except Trouble c.Answer) : Entry :=
  match result with
  | .ok _ => .call .info c.endpoint.path c.input "<nil>"
  | .error t => .call .warn c.endpoint.path c.input t.message

theorem Call.content_ending (base : String) (c : Call) (outcome : Outcome) :
    c.content (c.ending base outcome) =
      match c.result base outcome with
      | .ok answer => .rendered (c.fragment answer)
      | .error t => .failed t.message := by
  rcases h : c.conclude (c.ending base outcome) with t | answer <;>
    simp only [content, result, h]

/-- A call is never said to have been wrong itself. -/
theorem Call.result_ne_invalidInput (base : String) (c : Call) (outcome : Outcome)
    (reason : String) : c.result base outcome ≠ .error (.invalidInput reason) :=
  (c.classified_conclude (c.ending base outcome)).valid reason

theorem Call.isCall_entry (c : Call) (result : Except Trouble c.Answer) :
    (c.entry result).isCall := by
  cases result <;> rfl

def RegionId.warning (r : RegionId) (text : String) : Entry :=
  .message .warn ("Failed to fill region " ++ r.name ++ " due to: " ++ text)

def Content.failure? : Content → Option String
  | .failed text => some text
  | _ => none

/-- The names of regions can be told from what follows them. -/
theorem RegionId.eq_of_begins {r r' : RegionId}
    (h : r.name.toList ++ " due to: ".toList <+: r'.name.toList ++ " due to: ".toList) :
    r = r' := by
  revert h
  cases r <;> cases r' <;> decide

theorem RegionId.warning_inj {r r' : RegionId} {text text' : String} :
    r.warning text = r'.warning text' ↔ r = r' ∧ text = text' := by
  refine ⟨fun h => ?_, fun ⟨hr, htext⟩ => by rw [hr, htext]⟩
  simp only [warning, Entry.message.injEq, true_and] at h
  have hchars := congrArg String.toList h
  simp only [String.toList_append, List.append_cancel_left_eq, List.append_assoc] at hchars
  rw [← List.append_assoc, ← List.append_assoc] at hchars
  have hr : r = r' := by
    rcases List.prefix_or_prefix_of_prefix (hchars ▸ List.prefix_append _ text.toList)
      (List.prefix_append _ text'.toList) with hp | hp
    · exact eq_of_begins hp
    · exact (eq_of_begins hp).symm
  subst hr
  exact ⟨rfl, String.toList_inj.1 (List.append_cancel_left hchars)⟩

namespace Step

/-- Among fills of distinct regions, each gets the outcome at the place of its region. -/
theorem settleAll_eq (base : String) (outcomes : Nat → Outcome) {fills : List Fill}
    (h : (fills.map Fill.region).Nodup) (i : Nat) :
    settleAll base outcomes i fills =
      fills.map fun f => f.settle base (outcomes (i + place base fills f.region)) := by
  induction fills generalizing i with
  | nil => rfl
  | cons fill rest ih =>
    obtain ⟨hfill, hrest⟩ := List.nodup_cons.1 h
    have hplace : ∀ f ∈ rest, place base (fill :: rest) f.region =
        place base rest f.region + if (fill.request? base).isSome then 1 else 0 := fun f hf =>
      place_cons_of_ne base (fun heq => hfill (heq ▸ List.mem_map_of_mem hf)) rest
    rw [settleAll, ih hrest, List.map_cons, place_cons_self, Nat.add_zero]
    refine congrArg _ (List.map_congr_left fun f hf => ?_)
    rw [hplace f hf]
    split <;> simp only [Nat.add_assoc, Nat.add_comm, Nat.zero_add]

end Step

theorem Fill.entries_conclude (r : RegionId) (c : Call) (outcome : Outcome) :
    ((Fill.ask r c).conclude outcome).events.map Event.entry =
      c.entry (c.conclude outcome) :: ((c.content outcome).failure?.map r.warning).toList := by
  rcases h : c.conclude outcome with t | answer <;>
    simp [Fill.conclude, Call.content, h, unfilled, Event.entry, Call.entry, RegionId.warning,
      Content.failure?]

namespace Operation

/-- The entry of the call for a region, if there is one. -/
def callEntry? (base : String) (outcomes : Nat → Outcome) (op : Operation) (r : RegionId) :
    Option Entry :=
  match op.callFor r with
  | .ok c => some (c.entry (c.result base (outcomes (op.place base r))))
  | .error _ => none

/-- What an operation has the log say of a region that it fills. -/
def story (base : String) (outcomes : Nat → Outcome) (op : Operation) (r : RegionId) :
    List Entry :=
  (op.callEntry? base outcomes r).toList ++
    ((op.written base outcomes r).failure?.map r.warning).toList

theorem entries_settle (base : String) (outcomes : Nat → Outcome) (op : Operation) (r : RegionId) :
    ((submit r (op.callFor r)).settle base (outcomes (op.place base r))).events.map Event.entry =
      op.story base outcomes r := by
  rcases hcall : op.callFor r with t | c
  · simp only [story, callEntry?, written, hcall]
    rfl
  · simp only [story, callEntry?, written, hcall]
    rcases h : c.request base with f | q <;>
      simp only [submit, Fill.settle, Call.result, Call.ending, h, Fill.entries_conclude] <;> rfl

/-- The entry that an operation begins with. -/
def opening : Operation → List Entry
  | .ready restaurant => [.message .debug ("Loading page for restaurant: " ++ restaurant)]
  | _ => []

theorem entries_notes (op : Operation) : op.step.notes.map Event.entry = op.opening := by
  cases op <;> rfl

theorem settleAll_step (base : String) (outcomes : Nat → Outcome) (op : Operation) :
    Step.settleAll base outcomes 0 op.step.fills =
      op.targets.map fun r => (submit r (op.callFor r)).settle base (outcomes (op.place base r)) := by
  have hn : (op.step.fills.map Fill.region).Nodup := by
    rw [op.map_region_fills]
    exact op.nodup_targets
  simp only [Step.settleAll_eq base outcomes hn, Nat.zero_add, op.place_step]
  rw [op.fills_step, List.map_map]
  refine List.map_congr_left fun r _ => ?_
  rw [Function.comp_apply, region_submit]

theorem entries_finish (base : String) (outcomes : Nat → Outcome) (op : Operation) (t : Trace) :
    (op.step.finish base outcomes t).events.map Event.entry =
      t.events.map Event.entry ++
        (op.opening ++ op.targets.flatMap (op.story base outcomes)) := by
  simp only [Step.finish, settleAll_step, List.map_append, op.entries_notes, List.map_flatMap,
    List.flatMap_map, entries_settle, List.append_assoc]

section Story

variable {base : String} {outcomes : Nat → Outcome} {op : Operation}

theorem isCall_callEntry {r : RegionId} {e : Entry} (h : op.callEntry? base outcomes r = some e) :
    e.isCall := by
  unfold callEntry? at h
  split at h
  · rw [← Option.some.inj h]
    exact Call.isCall_entry _ _
  · cases h

theorem filter_story (r : RegionId) :
    (op.story base outcomes r).filter Entry.isCall = (op.callEntry? base outcomes r).toList := by
  have hcall : (op.callEntry? base outcomes r).toList.filter Entry.isCall =
      (op.callEntry? base outcomes r).toList :=
    List.filter_eq_self.2 fun e he => isCall_callEntry (Option.mem_toList.1 he)
  rw [story, List.filter_append, hcall]
  cases (op.written base outcomes r).failure? <;> simp [RegionId.warning, Entry.isCall]

theorem filter_told (base : String) (outcomes : Nat → Outcome) (op : Operation) :
    (op.opening ++ op.targets.flatMap (op.story base outcomes)).filter Entry.isCall =
      op.targets.filterMap (op.callEntry? base outcomes) := by
  have hopening : op.opening.filter Entry.isCall = [] := by cases op <;> rfl
  rw [List.filter_append, hopening, List.nil_append, List.filter_flatMap,
    List.filterMap_eq_flatMap_toList]
  exact congrArg (List.flatMap · _) (funext filter_story)

/-- A region has a warning if it is left with a failure, and then only one. -/
theorem count_story (r r' : RegionId) (text : String) :
    (op.story base outcomes r).count (r'.warning text) =
      if r = r' ∧ (op.written base outcomes r).failure? = some text then 1 else 0 := by
  have hcall : (op.callEntry? base outcomes r).toList.count (r'.warning text) = 0 := by
    refine List.count_eq_zero.2 fun h => ?_
    have hwarning := isCall_callEntry (Option.mem_toList.1 h)
    cases hwarning
  rw [story, List.count_append, hcall, Nat.zero_add]
  rcases (op.written base outcomes r).failure? with _ | text'
  · simp
  · simp [List.count_singleton, RegionId.warning_inj]

theorem count_stories (r : RegionId) (text : String) :
    ∀ {rs : List RegionId}, rs.Nodup →
      (rs.flatMap (op.story base outcomes)).count (r.warning text) =
        if r ∈ rs ∧ (op.written base outcomes r).failure? = some text then 1 else 0
  | [], _ => by simp
  | r' :: rs, h => by
    obtain ⟨hr', hrs⟩ := List.nodup_cons.1 h
    rw [List.flatMap_cons, List.count_append, count_story, count_stories r text hrs]
    by_cases hr : r' = r
    · subst hr
      simp [hr']
    · simp [hr, Ne.symm hr]

theorem count_told (base : String) (outcomes : Nat → Outcome) (op : Operation) (r : RegionId)
    (text : String) :
    (op.opening ++ op.targets.flatMap (op.story base outcomes)).count (r.warning text) =
      if r ∈ op.targets ∧ (op.written base outcomes r).failure? = some text then 1 else 0 := by
  have hopening : op.opening.count (r.warning text) = 0 := by
    refine List.count_eq_zero.2 fun h => ?_
    cases op with
    | ready restaurant => simp [opening, RegionId.warning] at h
    | _ => cases h
  rw [List.count_append, hopening, Nat.zero_add, count_stories r text op.nodup_targets]

/-- Nothing else is told than calls, warnings and how the operation begins. -/
theorem mem_told {e : Entry} (h : e ∈ op.opening ++ op.targets.flatMap (op.story base outcomes))
    (hcall : e.isCall = false) :
    e ∈ op.opening ∨ ∃ (r : RegionId) (text : String), e = r.warning text := by
  rcases List.mem_append.1 h with h | h
  · exact .inl h
  · obtain ⟨r, -, h⟩ := List.mem_flatMap.1 h
    rcases List.mem_append.1 h with h | h
    · rw [isCall_callEntry (Option.mem_toList.1 h)] at hcall
      cases hcall
    · obtain ⟨text, -, rfl⟩ := Option.map_eq_some_iff.1 (Option.mem_toList.1 h)
      exact .inr ⟨r, text, rfl⟩

end Story

/-- There is no call only for a form with a wrong number. -/
theorem exists_invalidInput {op : Operation} {r : RegionId} {t : Trouble}
    (h : op.callFor r = .error t) : ∃ reason, t = .invalidInput reason := by
  cases op with
  | submitReview r' form =>
    have hnumber : form.number .rating = .error t := map_eq_error_iff.1 (map_eq_error_iff.1 h)
    exact ⟨_, (Form.number_eq_error_iff.1 hnumber).2⟩
  | submitRestaurant r' form =>
    have hnumber : form.number .capacity = .error t := map_eq_error_iff.1 (map_eq_error_iff.1 h)
    exact ⟨_, (Form.number_eq_error_iff.1 hnumber).2⟩
  | ready restaurant => cases r <;> cases h
  | _ => cases h

end Operation

theorem Call.fits_json (c : Call) : Json.Fits Json.maxLevels c.json := by
  cases c with
  | detail restaurant | review restaurant | search restaurant =>
    exact .object (List.forall_mem_singleton.2 (.text _ _))
  | reservation user => exact .object (List.forall_mem_singleton.2 (.text _ _))
  | popular count =>
    have hcount := count.toNat_lt
    exact .object (List.forall_mem_singleton.2 (.integer _ _ (by omega)))
  | reserve q =>
    exact Shape.fits_json
      (by decide : (Record.shape ReservationRequest).within Json.maxLevels) _
  | postReview q =>
    exact Shape.fits_json (by decide : (Record.shape ReviewRequest).within Json.maxLevels) _
  | postDetail q =>
    exact Shape.fits_json (by decide : (Record.shape RestaurantRequest).within Json.maxLevels) _

def Call.parameters : Call → List (String × Json)
  | .detail restaurant | .review restaurant | .search restaurant =>
    [("restaurant_name", .text restaurant)]
  | .reservation user => [("user_name", .text user)]
  | .popular count => [("topk", .number (.integer count.toNat))]
  | .reserve q =>
    [("user_name", .text q.userName), ("restaurant_name", .text q.restaurantName),
      ("year", .text q.year), ("month", .text q.month), ("day", .text q.day)]
  | .postReview q =>
    [("user_name", .text q.userName), ("restaurant_name", .text q.restaurantName),
      ("review", .text q.review), ("rating", .number (.integer q.rating.toInt))]
  | .postDetail q =>
    [("restaurant_name", .text q.restaurantName), ("location", .text q.location),
      ("style", .text q.style), ("capacity", .number (.integer q.capacity.toInt))]

theorem Call.json_eq (c : Call) : c.json = .object c.parameters := by
  cases c <;> rfl

/-- Nothing but the parameters is read in the entry of a call, as they are in its query. -/
theorem Call.read_input (c : Call) :
    c.input = (Json.object c.parameters).write ∧
      Json.read c.input = .ok (.object c.parameters) ∧
      c.pairs = c.parameters.map fun m => (m.1, Fragment.shown m.2) := by
  rw [input, pairs, ← c.json_eq, Json.read_write c.fits_json, c.json_eq]
  exact ⟨rfl, rfl, rfl⟩

namespace Visit

def entries (v : Visit σ) : List Entry :=
  v.progress.events.map Event.entry

def result (backend : Backend σ) (base : String) (op : Operation) (v : Visit σ) (r : RegionId)
    (c : Call) : Except Trouble c.Answer :=
  c.result base ((backend.exchange v.progress.state (op.requests base)).1 (op.place base r))

/-- What an operation adds to the log. -/
def told (backend : Backend σ) (base : String) (op : Operation) (v : Visit σ) : List Entry :=
  op.opening ++ op.targets.flatMap
    (op.story base (backend.exchange v.progress.state (op.requests base)).1)

theorem entries_perform (backend : Backend σ) (base : String) (op : Operation) (v : Visit σ) :
    (v.perform backend base op).entries = v.entries ++ v.told backend base op := by
  simp only [entries, perform, Step.run, told, ← op.requests_step]
  exact op.entries_finish base _ _

/-- What entries tell of an operation: each of its calls once, with its result, and each region that
it leaves with a failure once, with the text that is shown there. A call whose result is a trouble
leaves its region with the text of that trouble, and only where the form is wrong there is a failure
without a call. -/
structure Tells (backend : Backend σ) (base : String) (op : Operation) (v : Visit σ)
    (told : List Entry) : Prop where
  calls : told.filter Entry.isCall = op.targets.filterMap fun r =>
    match op.callFor r with
    | .ok c => some (c.entry (v.result backend base op r c))
    | .error _ => none
  warnings : ∀ (r : RegionId) (text : String), told.count (r.warning text) =
    if r ∈ op.targets ∧
      ((v.perform backend base op).document.region r).content.failure? = some text then 1 else 0
  others : ∀ e ∈ told, e.isCall = false →
    e ∈ op.opening ∨ ∃ (r : RegionId) (text : String), e = r.warning text
  called : ∀ r ∈ op.targets, ∀ c, op.callFor r = .ok c →
    ((v.perform backend base op).document.region r).content =
        (match v.result backend base op r c with
          | .ok answer => .rendered (c.fragment answer)
          | .error t => .failed t.message) ∧
      ∀ reason, v.result backend base op r c ≠ .error (.invalidInput reason)
  uncalled : ∀ r ∈ op.targets, ∀ t, op.callFor r = .error t →
    ((v.perform backend base op).document.region r).content = .failed t.message ∧
      ∃ reason, t = .invalidInput reason

theorem tells (backend : Backend σ) (base : String) (op : Operation) (v : Visit σ) :
    v.Tells backend base op (v.told backend base op) := by
  have hcontent : ∀ r ∈ op.targets,
      ((v.perform backend base op).document.region r).content = v.written backend base op r := by
    intro r hr
    rw [region_perform, if_pos hr, Region.write]
  constructor
  case calls => exact op.filter_told base _
  case warnings =>
    intro r text
    rw [told, op.count_told]
    by_cases hr : r ∈ op.targets
    · simp only [hcontent r hr, written]
    · simp only [hr, false_and, if_false]
  case others => exact fun e he => Operation.mem_told he
  case called =>
    intro r hr c hc
    refine ⟨?_, c.result_ne_invalidInput base _⟩
    simp only [hcontent r hr, written, Operation.written, hc, c.content_ending, result]
  case uncalled =>
    intro r hr t ht
    refine ⟨?_, Operation.exists_invalidInput ht⟩
    rw [hcontent r hr, written, Operation.written, ht]

/-- The entries of operations, each of which is performed on a page of its own, with the backend
where the others have left it. -/
def alone (backend : Backend σ) (base : String) : List Operation → σ → List Entry
  | [], _ => []
  | op :: ops, state =>
    let w := (start state).perform backend base op
    w.entries ++ alone backend base ops w.progress.state

theorem entries_performAll (backend : Backend σ) (base : String) :
    ∀ (ops : List Operation) (v : Visit σ),
      (v.performAll backend base ops).entries =
        v.entries ++ alone backend base ops v.progress.state
  | [], v => (List.append_nil _).symm
  | op :: ops, v => by
    have halone : ((start v.progress.state).perform backend base op).entries =
        v.told backend base op := entries_perform backend base op (start v.progress.state)
    have ih := entries_performAll backend base ops (v.perform backend base op)
    rw [performAll, List.foldl_cons, ← performAll, ih, entries_perform, alone, halone,
      List.append_assoc]
    rfl

/-- Log, troubles and regions tell the same story, whatever the backend does. An operation adds to
the log what `Tells` says, and a run what its operations add each on its own; the parameters in the
entry of a call are read back as those that its query carries. -/
theorem log_tells_what_happened (backend : Backend σ) (base : String) :
    (∀ (op : Operation) (v : Visit σ), ∃ told,
      (v.perform backend base op).entries = v.entries ++ told ∧ v.Tells backend base op told) ∧
    (∀ c : Call, c.input = (Json.object c.parameters).write ∧
      Json.read c.input = .ok (.object c.parameters) ∧
      c.pairs = c.parameters.map fun m => (m.1, Fragment.shown m.2)) ∧
    ∀ (ops : List Operation) (v : Visit σ),
      (v.performAll backend base ops).entries =
        v.entries ++ alone backend base ops v.progress.state :=
  ⟨fun op v => ⟨_, entries_perform backend base op v, tells backend base op v⟩,
    Call.read_input, entries_performAll backend base⟩

/-- A refused form is no call, but its region is warned of. -/
example :
    ((start ()).perform (offline Unit) "" (.submitReview .reviews [("rating", "five")])).entries =
      [.message .warn ("Failed to fill region reviews due to: " ++
        "invalid input: rating must be a number, got `five`")] := by
  decide +kernel

end Visit

end Bistro
