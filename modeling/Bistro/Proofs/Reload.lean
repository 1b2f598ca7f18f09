import Bistro.Proofs.Routes

/-!
# The page after a submission

The pages after a reservation and after a review load the restaurant as the start page does that is
asked for the name in the form. If the backend answers these loads by their requests alone, the
pages are the same but for the message (`Service.same_page_after_submission`), because their regions
are filled by the same calls, though in other steps.
-/

namespace Bistro

variable {σ : Type}

/-- The backend answers the loads of a restaurant by the request alone: neither what it went through
before nor what else is under way makes a difference. -/
def Backend.AnswersLoads (backend : Backend σ) (base : String) (answer : Request → Outcome) :
    Prop :=
  ∀ (state : σ) (requests : List Request) (i : Nat) (q : Request), requests[i]? = some q →
    (∃ name, (Call.detail name).request? base = some q ∨
      (Call.review name).request? base = some q) →
    (backend.exchange state requests).1 i = answer q

/-- The name that a form has for the restaurant, if it has the control at all. -/
def Form.NamesRestaurant (form : Form) : Option String → Prop
  | some name => IsLast form Control.restaurantName.name name
  | none => Control.restaurantName.name ∉ form.map Prod.fst

theorem Form.NamesRestaurant.value_eq {form : Form} {requested : Option String}
    (h : form.NamesRestaurant requested) : form.value .restaurantName = requested.getD "" := by
  cases requested with
  | none => exact Form.value_of_holds (.inr ⟨h, rfl⟩)
  | some name => exact Form.value_of_holds (.inl h)

/-- A form without the name of a restaurant selects as a request without it. -/
theorem Form.NamesRestaurant.selectedBy_eq {form : Form} {requested : Option String}
    (h : form.NamesRestaurant requested) (service : Service) :
    PagePlan.selectedBy service form = selectRestaurant service.defaultRestaurant requested := by
  rw [PagePlan.selectedBy, h.value_eq]
  cases requested with
  | none => rfl
  | some name => rfl

namespace PagePlan

variable {service : Service} {selected : Option String}

def loadRequests (base : String) (selected : Option String) : List Request :=
  (selected.toList.flatMap fun name => [Call.detail name, Call.review name]).filterMap
    (Call.request? base)

theorem filterMap_load (base : String) (selected : Option String) :
    (load selected).fills.filterMap (Fill.request? base) = loadRequests base selected := by
  cases selected with
  | none => rfl
  | some name =>
    have hask (r : RegionId) (c : Call) : (Fill.ask r c).request? base = c.request? base := rfl
    simp only [load, loadRequests, Operation.step, Option.toList_some, List.flatMap_singleton,
      List.filterMap_cons, List.filterMap_nil, hask]

theorem exists_call_of_load {base : String} {fill : Fill} {q : Request}
    (hfill : fill ∈ (load selected).fills) (hq : fill.request? base = some q) :
    ∃ name, (Call.detail name).request? base = some q ∨
      (Call.review name).request? base = some q := by
  cases selected with
  | none =>
    obtain rfl := List.mem_singleton.1 hfill
    cases hq
  | some name =>
    simp only [load, Operation.step, List.mem_cons, List.not_mem_nil, or_false] at hfill
    rcases hfill with rfl | rfl
    · exact ⟨name, .inl hq⟩
    · exact ⟨name, .inr hq⟩

/-- A page on which a restaurant is loaded: beside the loads, only the message is written. -/
structure Loads (plan : PagePlan) (selected : Option String) (others : List Fill) : Prop where
  fills : plan.steps.flatMap Step.fills = others ++ (load selected).fills
  title : plan.title = selected.getD ""
  message : ∀ fill ∈ others, fill.region = .reservationMessage
  writes : ∀ fill ∈ others, ∀ base q, fill.request? base = some q → q.method = .post
  nodup : ((plan.steps.flatMap Step.fills).map Fill.region).Nodup

variable {plan : PagePlan} {others : List Fill} {backend : Backend σ} {base : String}
  {answer : Request → Outcome}

theorem Loads.region_load (h : plan.Loads selected others)
    (hanswer : backend.AnswersLoads base answer) (state : σ) {fill : Fill}
    (hfill : fill ∈ (load selected).fills) :
    ∃ outcome, (∀ q, fill.request? base = some q → outcome = answer q) ∧
      (plan.run backend base state).document.region fill.region =
        Region.fresh.write (fill.content base outcome) := by
  have hmem : fill ∈ plan.steps.flatMap Step.fills := h.fills ▸ List.mem_append_right _ hfill
  obtain ⟨outcome, hends, hregion⟩ := region_run h.nodup backend base state hmem
  refine ⟨outcome, fun q hq => ?_, hregion⟩
  obtain ⟨s, requests, i, hi, rfl⟩ := hends.exchange_eq hq
  exact hanswer s requests i q hi (exists_call_of_load hfill hq)

/-- What is loaded is the same on two pages, whatever else is written. -/
theorem Loads.region_eq {plan' : PagePlan} {others' : List Fill} (h : plan.Loads selected others)
    (h' : plan'.Loads selected others') (hanswer : backend.AnswersLoads base answer)
    (state state' : σ) {r : RegionId} (hr : r ≠ .reservationMessage) :
    (plan.run backend base state).document.region r =
      (plan'.run backend base state').document.region r := by
  by_cases hload : r ∈ (load selected).fills.map Fill.region
  · obtain ⟨fill, hfill, rfl⟩ := List.mem_map.1 hload
    obtain ⟨outcome, hq, hregion⟩ := h.region_load hanswer state hfill
    obtain ⟨outcome', hq', hregion'⟩ := h'.region_load hanswer state' hfill
    rw [hregion, hregion']
    rcases hrequest : fill.request? base with _ | q
    · rw [Fill.content_congr hrequest outcome outcome']
    · rw [hq q hrequest, hq' q hrequest]
  · have hnot : ∀ {p : PagePlan} {fills : List Fill}, p.Loads selected fills →
        r ∉ (p.steps.flatMap Step.fills).map Fill.region := by
      intro p fills hp hmem
      rw [hp.fills, List.map_append, List.mem_append] at hmem
      rcases hmem with hmem | hmem
      · obtain ⟨fill, hfill, rfl⟩ := List.mem_map.1 hmem
        exact hr (hp.message fill hfill)
      · exact hload hmem
    rw [region_run_of_notMem h.nodup backend base state (hnot h),
      region_run_of_notMem h'.nodup backend base state' (hnot h')]

theorem loads_home (service : Service) (requested : Option String) :
    (home service requested).Loads (selectRestaurant service.defaultRestaurant requested) [] where
  fills := by simp [home]
  title := rfl
  message := by simp
  writes := by simp
  nodup := by
    cases h : selectRestaurant service.defaultRestaurant requested <;>
      simp [home, h, load, Operation.step]

theorem loads_reserve (service : Service) (form : Form) :
    (reserve service form).Loads (selectedBy service form)
      [.ask .reservationMessage (.reserve form.reservation)] where
  fills := by simp [reserve, together, Operation.step]
  title := by rw [reserve]
  message := by simp
  writes := by
    intro fill hfill base q hq
    obtain rfl := List.mem_singleton.1 hfill
    exact Call.method_of_request? hq
  nodup := by
    cases h : selectedBy service form <;> simp [reserve, h, together, load, Operation.step]

theorem loads_review (service : Service) (form : Form) :
    (review service form).Loads (selectedBy service form) [post form] where
  fills := by rw [fills_review, List.singleton_append]
  title := by rw [review]
  message := by simp
  writes := by
    intro fill hfill base q hq
    obtain rfl := List.mem_singleton.1 hfill
    rw [request?_post, Option.bind_eq_some_iff] at hq
    obtain ⟨c, hc, hq⟩ := hq
    rw [Call.method_of_request? hq]
    cases hreview : form.review with
    | error t => simp [hreview, Except.map, Except.toOption] at hc
    | ok r =>
      simp only [hreview, Except.map, Except.toOption, Option.some.injEq] at hc
      subst hc
      rfl
  nodup := nodup_review service form

end PagePlan

namespace Web.Request

/-- A request for the start page that names this restaurant, or none. -/
structure AsksFor (request : Web.Request) (requested : Option String) : Prop where
  method : request.method = "GET"
  path : request.path = "/"
  name : request.optionalText "restaurant_name" = .ok requested

def asking : Option String → Web.Request
  | none => ⟨"GET", "/", [], []⟩
  | some name =>
    ⟨"GET", "/?" ++ String.ofList (Urlencoded.encode [("restaurant_name", name)]), [], []⟩

end Web.Request

theorem Urlencoded.hash_notMem_encode (p : String × String) : '#' ∉ encode [p] := by
  have hbyte : ∀ n < 256, '#' ∉ encodeByte (UInt8.ofNat n) := by
    decide +kernel
  have htext : ∀ s, '#' ∉ encodeText s := by
    intro s hmem
    obtain ⟨b, -, hb⟩ := List.mem_flatMap.1 hmem
    refine hbyte b.toNat b.toNat_lt ?_
    rwa [UInt8.ofNat_toNat]
  rw [encode, List.map_singleton, List.intercalate_singleton, encodePair]
  simp [htext]

namespace Web.Request

theorem localTarget_query {query : List Char} (h : '#' ∉ query) :
    localTarget ("/?" ++ String.ofList query) = '/' :: '?' :: query := by
  have hchars : ("/?" ++ String.ofList query).toList = '/' :: '?' :: query := by
    simp
  have hkept : ('/' :: '?' :: query).takeWhile (· ≠ '#') = '/' :: '?' :: query := by
    rw [List.takeWhile_eq_self_iff]
    rintro c hc
    rcases List.mem_cons.1 hc with rfl | hc
    · rfl
    rcases List.mem_cons.1 hc with rfl | hc
    · rfl
    exact decide_eq_true fun hhash => h (hhash ▸ hc)
  simp only [localTarget, hchars, hkept]
  rfl

theorem asksFor_asking : ∀ requested, (asking requested).AsksFor requested
  | none => ⟨rfl, by decide +kernel, by decide +kernel⟩
  | some name => by
    have htarget := localTarget_query (Urlencoded.hash_notMem_encode ("restaurant_name", name))
    refine ⟨rfl, ?_, ?_⟩
    · rw [Web.Request.path, asking, htarget]
      rfl
    · have hquery : (asking (some name)).query =
          String.ofList (Urlencoded.encode [("restaurant_name", name)]) := by
        rw [Web.Request.query, asking, htarget]
        rfl
      rw [Web.Request.optionalText, Web.Request.parameter, hquery, Urlencoded.decode_encode]
      rfl

end Web.Request

namespace Service

variable {service : Service}

/-- What a page with a loaded restaurant and the start page of this restaurant have in common. -/
structure SamePage (service : Service) (backend : Backend σ) (post get : Web.Request)
    (state state' : σ) (plan : PagePlan) (selected : Option String) : Prop where
  plan_eq : service.plan post = .ok plan
  after : (service.respond backend post state).response =
    .html 200 ((plan.run backend service.backendUrl state).document.page plan.title)
  before : (service.respond backend get state').response =
    .html 200 ({ (plan.run backend service.backendUrl state).document with
      reservationMessage := .fresh }.page plan.title)
  loads : service.requests backend get state' = PagePlan.loadRequests service.backendUrl selected
  same_loads : (service.requests backend post state).filter (fun q => q.method = .get) =
    service.requests backend get state'

theorem plan_get {get : Web.Request} {requested : Option String} (h : get.AsksFor requested) :
    service.plan get = .ok (.home service requested) := by
  have hpath : get.path = Route.home.path := h.path
  rw [plan_of_route hpath (by rw [h.method]; rfl)]
  simp only [Route.plan, h.name]

theorem samePage_of_loads {plan : PagePlan} {others : List Fill} {post get : Web.Request}
    {requested : Option String} (hplan : service.plan post = .ok plan)
    (h : plan.Loads (selectRestaurant service.defaultRestaurant requested) others)
    (hpost : post.method = "POST") (hget : get.AsksFor requested) {backend : Backend σ}
    {answer : Request → Outcome} (hanswer : backend.AnswersLoads service.backendUrl answer)
    (state state' : σ) :
    service.SamePage backend post get state state' plan
      (selectRestaurant service.defaultRestaurant requested) := by
  have hhome := PagePlan.loads_home service requested
  have hdocument :
      ((PagePlan.home service requested).run backend service.backendUrl state').document =
        { (plan.run backend service.backendUrl state).document with
          reservationMessage := .fresh } := by
    refine Flow.document_eq_of_regions fun r => ?_
    by_cases hr : r = .reservationMessage
    · subst hr
      refine (PagePlan.region_run_of_notMem hhome.nodup backend _ state' ?_).trans rfl
      rw [hhome.fills, List.nil_append]
      cases selectRestaurant service.defaultRestaurant requested <;>
        simp [PagePlan.load, Operation.step]
    · rw [hhome.region_eq h hanswer state' state hr]
      cases r with
      | reservationMessage => exact absurd rfl hr
      | _ => rfl
  have hloads := requests_eq (@plan_get service _ _ hget) backend state'
  rw [hhome.fills, List.nil_append, PagePlan.filterMap_load] at hloads
  refine ⟨hplan, ?_, ?_, hloads, ?_⟩
  · simp [respond_of_plan hplan, PagePlan.response, Web.Response.answering, hpost]
  · simp [respond_of_plan (plan_get hget), PagePlan.response, Web.Response.answering, hget.method,
      hdocument, hhome.title, h.title]
  · -- of the requests for the page after the submission, only the write is no load
    have hothers : (others.filterMap (Fill.request? service.backendUrl)).filter
        (fun q => q.method = .get) = [] := by
      refine List.filter_eq_nil_iff.2 fun q hq => ?_
      obtain ⟨fill, hfill, hrequest⟩ := List.mem_filterMap.1 hq
      simp [h.writes fill hfill _ q hrequest]
    rw [hloads, requests_eq hplan, h.fills, List.filterMap_append, List.filter_append, hothers,
      List.nil_append, ← PagePlan.filterMap_load, List.filter_eq_self]
    intro q hq
    obtain ⟨fill, hfill, hrequest⟩ := List.mem_filterMap.1 hq
    exact decide_eq_true (PagePlan.method_of_load fill hfill _ q hrequest)

/-- The page after a reservation or a review is, but for the message, the start page that is asked
for the restaurant in the form, and the same requests load both: whatever becomes of the write, and
whatever the name is, if the backend answers the loads by their requests alone. -/
theorem same_page_after_submission (service : Service) (backend : Backend σ)
    {answer : Request → Outcome} (hanswer : backend.AnswersLoads service.backendUrl answer)
    (state state' : σ) {post get : Web.Request} {form : Form} {requested : Option String}
    (hpath : post.path = "/reserve" ∨ post.path = "/review") (hmethod : post.method = "POST")
    (hform : post.form = .ok form) (hnamed : form.NamesRestaurant requested)
    (hget : get.AsksFor requested) :
    ∃ plan, service.SamePage backend post get state state' plan
      (selectRestaurant service.defaultRestaurant requested) := by
  have hselected := hnamed.selectedBy_eq service
  rcases hpath with hpath | hpath
  · have hroute : post.path = Route.reserve.path := hpath
    have hplan : service.plan post = .ok (.reserve service form) := by
      rw [plan_of_route hroute (by rw [hmethod]; rfl)]
      simp only [Route.plan, hform]
    exact ⟨_, samePage_of_loads hplan (hselected ▸ PagePlan.loads_reserve service form) hmethod hget
      hanswer state state'⟩
  · have hroute : post.path = Route.review.path := hpath
    have hplan : service.plan post = .ok (.review service form) := by
      rw [plan_of_route hroute (by rw [hmethod]; rfl)]
      simp only [Route.plan, hform]
    exact ⟨_, samePage_of_loads hplan (hselected ▸ PagePlan.loads_review service form) hmethod hget
      hanswer state state'⟩

/-- After a reservation at a padded name, for which every write gets another answer. -/
theorem same_page_after_padded_name :
    let service : Service := ⟨"http://[::1]:8080", "Roma"⟩
    let answer : Request → Outcome := fun _ => .ok ⟨200, none, utf8 "[]"⟩
    let backend : Backend Nat := ⟨fun n requests => (fun i =>
      match requests[i]? with
      | some ⟨.get, url⟩ => answer ⟨.get, url⟩
      | _ => .ok ⟨n, none, []⟩, n + 1)⟩
    let form : Form := [("user-name", "Ann"), ("restaurant-name", " Trattoria & Bar ")]
    let post : Web.Request := .posting "/reserve" form
    let get : Web.Request := .asking (some " Trattoria & Bar ")
    backend.AnswersLoads service.backendUrl answer ∧ post.form = .ok form ∧
      form.NamesRestaurant (some " Trattoria & Bar ") ∧ get.AsksFor (some " Trattoria & Bar ") ∧
      ∃ plan, service.SamePage backend post get 200 500 plan (some "Trattoria & Bar") := by
  intro service answer backend form post get
  have hanswer : backend.AnswersLoads service.backendUrl answer := by
    rintro n requests i q hq ⟨name, hcall⟩
    have hmethod : q.method = .get :=
      hcall.elim (fun h => Call.method_of_request? h) fun h => Call.method_of_request? h
    obtain ⟨method, url⟩ := q
    obtain rfl : method = .get := hmethod
    simp only [backend, hq]
  have hform : post.form = .ok form :=
    (Web.Request.submits_posting "/reserve" (by decide +kernel)).form_eq
  have hnamed : form.NamesRestaurant (some " Trattoria & Bar ") :=
    ⟨form.take 1, [], rfl, by decide⟩
  have hselect : selectRestaurant service.defaultRestaurant (some " Trattoria & Bar ") =
      some "Trattoria & Bar" := by
    decide +kernel
  refine ⟨hanswer, hform, hnamed, Web.Request.asksFor_asking _, ?_⟩
  rw [← hselect]
  exact same_page_after_submission service backend hanswer 200 500
    (.inl (Web.Request.path_posting form)) rfl hform hnamed (Web.Request.asksFor_asking _)

end Service

end Bistro
