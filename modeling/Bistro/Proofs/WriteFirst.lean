import Bistro.Proofs.Reviewing
import Bistro.Proofs.Run

/-!
# Reads behind a write

After a review was posted, the loads of the page are made behind the post, and whatever became of it
(`loads_follow_post`). What they show is not older than a post that was answered, but it can be
older than one that was given up (`loads_precede_given_up_post`).
-/

namespace Bistro

variable {σ : Type}

namespace PagePlan

/-- What is made of the page after a review by a backend that is given the requests of a step
together, in the state that the steps before left. The message is the one of the submission alone,
and the other regions are those of a page that is ready when the submission is over. The post is
asked for first, then the loads, once each. -/
structure Reloads (service : Service) (form : Form) (backend : Backend σ) (state : σ) : Prop where
  message : ((review service form).run backend service.backendUrl state).document.region
      .reservationMessage =
    ((Visit.start state).perform backend service.backendUrl
      (.submitReview .reservationMessage form)).document.region .reservationMessage
  loaded : ∀ name, selectedBy service form = some name → ∀ r, r ≠ .reservationMessage →
    ((review service form).run backend service.backendUrl state).document.region r =
      ((Visit.start ((Visit.start state).perform backend service.backendUrl
        (.submitReview .reservationMessage form)).progress.state).perform backend
          service.backendUrl (.ready name)).document.region r
  unloaded : selectedBy service form = none →
    ((review service form).run backend service.backendUrl state).document.reviews = .fresh ∧
      ((review service form).run backend service.backendUrl state).document.details =
        Region.fresh.write (.rendered (.message "Pick a restaurant to see its details."))
  asked : ((review service form).run backend.recorded service.backendUrl (state, [])).state.2 =
    (post form :: (selectedBy service form).toList.flatMap loads).filterMap
      (Fill.request? service.backendUrl)
  noted : ((review service form).run backend service.backendUrl state).events.filterMap
      Event.call? =
    ((form.review.map Call.postReview).toOption.toList ++ (selectedBy service form).toList.flatMap
      fun name => [Call.detail name, Call.review name]).map Call.noted

section Reloads

variable {service : Service} {form : Form}

theorem run_review_of_selected {name : String} (h : selectedBy service form = some name)
    (backend : Backend σ) (state : σ) :
    (review service form).run backend service.backendUrl state =
      ((Visit.start state).performAll backend service.backendUrl
        [.submitReview .reservationMessage form, .ready name]).progress := by
  simp [run, review, load, h, Visit.performAll, Visit.perform, Visit.start]

theorem run_review_of_unselected (h : selectedBy service form = none) (backend : Backend σ)
    (state : σ) :
    (review service form).run backend service.backendUrl state =
      (load none).run backend service.backendUrl
        ((Visit.start state).perform backend service.backendUrl
          (.submitReview .reservationMessage form)).progress := by
  simp [run, review, h, Visit.perform, Visit.start]

/-- Where no restaurant is selected, a notice is all that is left to do. -/
theorem run_unselected (backend : Backend σ) (base : String) (p : Progress σ) :
    ((load none).run backend base p).toTrace =
      ⟨p.document.write .details (.rendered (.message "Pick a restaurant to see its details.")),
        p.events⟩ :=
  congrArg (Trace.mk _) ((List.append_nil _).trans (List.append_nil _))

/-- Writing down the requests changes nothing, and they are those of the steps, in order. -/
theorem run_recorded (backend : Backend σ) (base : String) (plan : PagePlan) (state : σ)
    (log : List Request) :
    plan.run backend.recorded base (state, log) =
      ⟨(plan.run backend base state).toTrace, ((plan.run backend base state).state,
        log ++ plan.steps.flatMap (Step.requests base))⟩ := by
  have hsteps : ∀ (steps : List Step) (p : Progress σ) (log : List Request),
      steps.foldl (fun p step => step.run backend.recorded base p)
          (⟨p.toTrace, (p.state, log)⟩ : Progress (σ × List Request)) =
        let q := steps.foldl (fun p step => step.run backend base p) p
        ⟨q.toTrace, (q.state, log ++ steps.flatMap (Step.requests base))⟩ := by
    intro steps
    induction steps with
    | nil => simp
    | cons step steps ih =>
      intro p log
      rw [List.foldl_cons, List.foldl_cons, List.flatMap_cons, ← List.append_assoc]
      exact ih (step.run backend base p) _
  exact hsteps plan.steps ⟨.fresh, state⟩ log

theorem calls_submitReview (r : RegionId) (form : Form) :
    (Operation.submitReview r form).calls =
      (form.review.map Call.postReview).toOption.toList := by
  simp only [Operation.calls, Operation.targets, Operation.callFor, List.filterMap_cons,
    List.filterMap_nil]
  cases (form.review.map Call.postReview).toOption <;> rfl

theorem requests_post (base : String) (r : RegionId) (form : Form) :
    (Operation.submitReview r form).step.requests base =
      ((post form).request? base).toList := by
  simp only [Operation.requests_step, Operation.requests, calls_submitReview, request?_post]
  cases (form.review.map Call.postReview).toOption with
  | none => rfl
  | some c => cases h : c.request? base <;> simp [h]

theorem region_submitted (backend : Backend σ) (base : String) (form : Form) (state : σ)
    {r : RegionId} (hr : r ≠ .reservationMessage) :
    ((Visit.start state).perform backend base
      (.submitReview .reservationMessage form)).document.region r = .fresh := by
  rw [Visit.region_perform, if_neg (by simpa [Operation.targets] using hr)]
  exact Document.region_fresh r

theorem reloads (service : Service) (form : Form) (backend : Backend σ) (state : σ) :
    Reloads service form backend state where
  message := by
    rcases h : selectedBy service form with _ | name
    · rw [run_review_of_unselected h, run_unselected, Document.region_write, if_neg (by simp),
        Visit.document]
    · rw [run_review_of_selected h]
      exact Visit.region_perform backend _ (.ready name) _ .reservationMessage
  loaded name h r hr := by
    rw [run_review_of_selected h]
    refine (Visit.region_perform backend _ (.ready name) _ r).trans ?_
    rw [region_submitted backend _ form state hr, Visit.region_perform]
    simp only [Visit.start, Visit.document, Trace.fresh, Document.region_fresh, Visit.written]
  unloaded h := by
    rw [run_review_of_unselected h, run_unselected]
    have hfresh := fun r => region_submitted backend service.backendUrl form state (r := r)
    simp only [Visit.document] at hfresh
    exact ⟨hfresh .reviews (by simp), congrArg (Region.write · _) (hfresh .details (by simp))⟩
  asked := by
    rw [run_recorded]
    simp only [review, List.flatMap_cons, List.flatMap_nil, requests_post, List.nil_append,
      List.append_nil, List.filterMap_cons]
    have hload : (load (selectedBy service form)).requests service.backendUrl =
        ((selectedBy service form).toList.flatMap loads).filterMap
          (Fill.request? service.backendUrl) := by
      cases selectedBy service form with
      | none => rfl
      | some name => rw [Option.toList_some, List.flatMap_singleton]; rfl
    rw [hload]
    generalize ((selectedBy service form).toList.flatMap loads).filterMap
      (Fill.request? service.backendUrl) = rest
    cases (post form).request? service.backendUrl with
    | none => exact List.nil_append rest
    | some q => exact List.singleton_append
  noted := by
    rcases h : selectedBy service form with _ | name
    · rw [run_review_of_unselected h, run_unselected, Visit.call?_perform, calls_submitReview,
        Option.toList_none, List.flatMap_nil, List.append_nil]
      exact List.nil_append _
    · rw [run_review_of_selected h, Visit.call?_performAll, List.flatMap_cons, calls_submitReview,
        Option.toList_some, List.flatMap_singleton, List.flatMap_singleton]
      exact List.nil_append _

end Reloads

theorem selectedBy_eq_none (service : Service) (form : Form) :
    selectedBy service form = none ↔
      trim (form.value .restaurantName) = "" ∧ trim service.defaultRestaurant = "" := by
  simp only [selectedBy, selectRestaurant, Option.bind_some, Option.or_eq_none_iff, properName]
  split_ifs <;> simp_all

end PagePlan

theorem Fill.content_of_request {base : String} {r : RegionId} {c : Call}
    (h : ((Fill.ask r c).request? base).isSome) (outcome : Outcome) :
    (Fill.ask r c).content base outcome = c.content outcome := by
  rw [content, Call.ending]
  split
  · rfl
  · rename_i hq
    rw [request?, hq] at h
    cases h

/-- A backend that knows no restaurant before something is posted. -/
def Server.unknowing : Server Bool where
  take known q :=
    let known := known || q.method == .post
    (.ok ⟨if known then 200 else 404, none, utf8 "{}"⟩, known)

theorem Server.after_unknowing : ∀ qs : List Request, unknowing.after true qs = true
  | [] => rfl
  | _ :: qs => after_unknowing qs

theorem Server.take_unknowing {q : Request} (h : q.method = .post) (others : List Request)
    (q' : Request) :
    (unknowing.take (unknowing.after false (q :: others)) q').1 = .ok ⟨200, none, utf8 "{}"⟩ := by
  have hknown : unknowing.after false (q :: others) = true := by
    rw [after, List.foldl_cons, show (unknowing.take false q).2 = true by simp [unknowing, h]]
    exact after_unknowing others
  rw [hknown]
  rfl

namespace PagePlan

theorem selectedBy_replicate (service : Service) {n : Nat} (hn : n ≠ 0) :
    selectedBy service [("restaurant-name", String.ofList (List.replicate n 'a'))] =
      some (String.ofList (List.replicate n 'a')) := by
  have hletter : ∀ c ∈ List.replicate n 'a', isBlank c = false := fun c hc => by
    rw [List.eq_of_mem_replicate hc]
    decide
  have htrim : trimChars (List.replicate n 'a') = List.replicate n 'a' :=
    trimChars_eq_iff.2 ⟨⟨[], [], by simp, nofun, nofun⟩,
      fun c hc => hletter c (List.mem_of_mem_head? hc),
      fun c hc => hletter c (List.mem_of_getLast? hc)⟩
  simp [selectedBy, Form.value, Control.name, selectRestaurant, properName, trim, htrim, hn]

/-- A load that it refused is not shown as it would be behind a post. -/
theorem content_unknowing {base : String} {fill : Fill} (hfill : fill ∈ loads "Roma")
    (h : (fill.request? base).isSome) :
    fill.content base (.ok ⟨404, none, utf8 "{}"⟩) ≠
      fill.content base (.ok ⟨200, none, utf8 "{}"⟩) := by
  have hne : ∀ c : Call, (c.conclude (.ok ⟨200, none, utf8 "{}"⟩)).toOption.isSome →
      c.content (.ok ⟨404, none, utf8 "{}"⟩) ≠ c.content (.ok ⟨200, none, utf8 "{}"⟩) := by
    intro c hread
    rw [c.content_of_rejection (by decide), Call.content]
    split
    · simp
    · rename_i hc
      rw [hc] at hread
      cases hread
  simp only [loads, List.mem_cons, List.not_mem_nil, or_false] at hfill
  rcases hfill with rfl | rfl
  all_goals
    rw [Fill.content_of_request h, Fill.content_of_request h]
    exact hne _ (by decide +kernel)

/-- A post that was given up can be taken last, so that the loads were refused. -/
theorem exists_refused {service : Service} {form : Form} {name : String} {qp qd qr : Request}
    (hselect : selectedBy service form = some name)
    (hqp : (post form).request? service.backendUrl = some qp)
    (hqd : (Call.detail name).request? service.backendUrl = some qd)
    (hqr : (Call.review name).request? service.backendUrl = some qr) :
    ∃ ms w taken, Reviewing service form .unknowing false ms w taken ∧ w.waiting = [] ∧
      posted taken = [qp] ∧ ∀ fill ∈ loads name, w.document.region fill.region =
        Region.fresh.write (fill.content service.backendUrl (.ok ⟨404, none, utf8 "{}"⟩)) := by
  have hdetail : qd.method = .get := Call.method_of_request? hqd
  have hreview : qr.method = .get := Call.method_of_request? hqr
  obtain ⟨ms, w, outcome, htalk, hw, hd⟩ := Dialogue.exists_taken_last .unknowing false .fresh
    (a := .ask .details (.detail name)) (b := .ask .reviews (.review name)) hqp hqd hqr
    (by simp) [] [.loading name] ⟨.sending, none, .timedOut⟩
  have hsteps : (review service form).steps = [⟨[], [post form]⟩, ⟨[.loading name],
      [.ask .details (.detail name), .ask .reviews (.review name)]⟩] := by
    rw [review, hselect]
    rfl
  refine ⟨ms, w, _, (hsteps ▸ htalk : Reviewing service form _ _ _ _ _), hw, by simp [posted],
    fun fill hfill => ?_⟩
  simp only [loads, List.mem_cons, List.not_mem_nil, or_false] at hfill
  rcases hfill with rfl | rfl <;>
    simp [hd, Document.region_write, Server.unknowing, hdetail, hreview]

/-- The page after a review is loaded behind the post, whatever becomes of it: in whatever order
things happen, no request of the loads leaves before the post is answered or failed. A post that was
answered, if only with a refusal, is one that the backend took in front of the loads. Nothing of the
kind is known of a post that was given up, which may be taken at any time. If the form or the
settings name a restaurant, it is loaded by one call for each of its two regions, else by none, and
the message is the one of the submission alone. -/
theorem loads_follow_post (service : Service) (form : Form) :
    (selectedBy service form = none ↔
        trim (form.value .restaurantName) = "" ∧ trim service.defaultRestaurant = "") ∧
      (∀ (σ : Type) (server : Server σ) (state : σ), LoadsFollow service form server state) ∧
      ∀ (σ : Type) (backend : Backend σ) (state : σ), Reloads service form backend state :=
  ⟨selectedBy_eq_none service form, fun _ => loadsFollow service form,
    fun _ => reloads service form⟩

/-- What is shown can be older than a post that was given up and is taken behind the loads. Neither
is anything loaded under a name that is too long for an address. -/
theorem loads_precede_given_up_post :
    let service : Service := ⟨"http://[::1]:8080", ""⟩
    let form : Form := [("user-name", "Ann"), ("restaurant-name", "Roma"), ("rating", "5")]
    let name := String.ofList (List.replicate 70000 'a')
    let long : Form := [("restaurant-name", name)]
    (selectedBy service form = some "Roma" ∧
      ∃ ms w taken, Reviewing service form .unknowing false ms w taken ∧ w.waiting = [] ∧
        (∃ q, (post form).request? service.backendUrl = some q ∧ posted taken = [q]) ∧
        ∀ fill ∈ loads "Roma", ∃ q, fill.request? service.backendUrl = some q ∧ ∀ others,
          w.document.region fill.region ≠ Region.fresh.write (fill.content service.backendUrl
            (Server.unknowing.take (Server.unknowing.after false (posted taken ++ others)) q).1)) ∧
    selectedBy service long = some name ∧
      ∀ (σ : Type) (server : Server σ) (state : σ) ms w taken,
        Reviewing service long server state ms w taken → ∀ r, r ≠ .reservationMessage →
          .send r ∉ ms := by
  intro service form name long
  have hselect : selectedBy service form = some "Roma" := by decide +kernel
  have hlong : selectedBy service long = some name := selectedBy_replicate service (by decide)
  refine ⟨⟨hselect, ?_⟩, ?_, fun σ server state ms w taken h r hr hsent => ?_⟩
  · obtain ⟨qp, hqp⟩ := Option.isSome_iff_exists.1
      (by decide +kernel : ((post form).request? service.backendUrl).isSome)
    obtain ⟨qd, hqd⟩ := Option.isSome_iff_exists.1
      (by decide +kernel : ((Call.detail "Roma").request? service.backendUrl).isSome)
    obtain ⟨qr, hqr⟩ := Option.isSome_iff_exists.1
      (by decide +kernel : ((Call.review "Roma").request? service.backendUrl).isSome)
    obtain ⟨ms, w, taken, htalk, hw, hposted, hold⟩ := exists_refused hselect hqp hqd hqr
    refine ⟨ms, w, taken, htalk, hw, ⟨qp, hqp, hposted⟩, fun fill hfill => ?_⟩
    obtain ⟨q, hq⟩ : ∃ q, fill.request? service.backendUrl = some q := by
      simp only [loads, List.mem_cons, List.not_mem_nil, or_false] at hfill
      rcases hfill with rfl | rfl
      · exact ⟨qd, hqd⟩
      · exact ⟨qr, hqr⟩
    refine ⟨q, hq, fun others heq =>
      content_unknowing hfill (Option.isSome_iff_exists.2 ⟨q, hq⟩) ?_⟩
    rw [hold fill hfill, hposted, List.singleton_append,
      Server.take_unknowing (method_of_post hqp)] at heq
    exact congrArg Region.content heq
  · exact hlong
  · refine h.not_sent_of_long hlong ?_ hr hsent
    rw [Urlencoded.encodeText_replicate, List.length_replicate]
    decide

end PagePlan

end Bistro
