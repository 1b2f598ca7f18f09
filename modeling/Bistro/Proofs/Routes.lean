import Bistro.Proofs.Posting
import Bistro.Proofs.Report
import Bistro.Proofs.Stages

/-!
# What the routes answer

The routes are listed with what they do for each region of their page (`Route.Makes`): a task asks
the backend or leaves a notice. What it gives is a fragment, or the trouble that its region shows
instead (`Task.Gives`). Whatever the backend does, the answer is a page on which the regions of the
tasks are written, once each, by what their own task gives (`Service.keeps_trouble_in_its_region`).
-/

namespace Bistro

variable {σ : Type}

/-- What is done for a region: the backend is asked, unless the form is refused that the call is to
be made of, or a notice is left. -/
inductive Task where
  | ask (region : RegionId) (call : Except Trouble Call)
  | notice (region : RegionId) (text : String)

namespace Task

def region : Task → RegionId
  | .ask region _ => region
  | .notice region _ => region

def fill : Task → Fill
  | .ask region call => Operation.submit region call
  | .notice region text => .put region (.rendered (.message text))

def request? (base : String) : Task → Option Request
  | .ask _ call => call.toOption.bind (Call.request? base)
  | .notice _ _ => none

/-- What a task gives if its exchange ends as `outcome` says: a fragment, or a trouble. There is no
exchange if the form is refused or the request cannot be made. -/
inductive Gives (base : String) (outcome : Outcome) : Task → Except Trouble Fragment → Prop
  | refused (r : RegionId) (t : Trouble) : Gives base outcome (.ask r (.error t)) (.error t)
  | unsent (r : RegionId) (c : Call) (f : Failure) (request : c.request base = .error f) :
      Gives base outcome (.ask r (.ok c)) (.error (.network f.message))
  | failed (r : RegionId) (c : Call) (q : Request) (request : c.request base = .ok q) (f : Failure)
      (ending : outcome = .error f) :
      Gives base outcome (.ask r (.ok c)) (.error (.network f.message))
  | rejected (r : RegionId) (c : Call) (q : Request) (request : c.request base = .ok q)
      (a : Answer) (ending : outcome = .ok a) (status : ¬ (200 ≤ a.status ∧ a.status ≤ 299)) :
      Gives base outcome (.ask r (.ok c))
        (.error (.rejected c.endpoint.path a.status (trim a.text)))
  | unread (r : RegionId) (c : Call) (q : Request) (request : c.request base = .ok q) (a : Answer)
      (ending : outcome = .ok a) (status : 200 ≤ a.status ∧ a.status ≤ 299) (e : Json.ReadError)
      (body : c.read a.text = .error e) :
      Gives base outcome (.ask r (.ok c)) (.error (.parse c.endpoint.path e.message))
  | answered (r : RegionId) (c : Call) (q : Request) (request : c.request base = .ok q) (a : Answer)
      (ending : outcome = .ok a) (status : 200 ≤ a.status ∧ a.status ≤ 299) (answer : c.Answer)
      (body : c.read a.text = .ok answer) :
      Gives base outcome (.ask r (.ok c)) (.ok (c.fragment answer))
  | noticed (r : RegionId) (text : String) :
      Gives base outcome (.notice r text) (.ok (.message text))

variable {base : String} {outcome : Outcome} {task : Task}

theorem region_fill : ∀ task : Task, task.fill.region = task.region
  | .ask r call => Operation.region_submit r call
  | .notice _ _ => rfl

theorem request?_fill (base : String) : ∀ task : Task, task.fill.request? base = task.request? base
  | .ask r call => Operation.request?_submit base r call
  | .notice _ _ => rfl

theorem exists_gives (base : String) (outcome : Outcome) :
    ∀ task : Task, ∃ result, task.Gives base outcome result
  | .ask r (.error t) => ⟨_, .refused r t⟩
  | .ask r (.ok c) => by
    rcases hq : c.request base with f | q
    · exact ⟨_, .unsent r c f hq⟩
    rcases outcome with f | a
    · exact ⟨_, .failed r c q hq f rfl⟩
    by_cases hstatus : 200 ≤ a.status ∧ a.status ≤ 299
    · rcases hread : c.read a.text with e | answer
      · exact ⟨_, .unread r c q hq a rfl hstatus e hread⟩
      · exact ⟨_, .answered r c q hq a rfl hstatus answer hread⟩
    · exact ⟨_, .rejected r c q hq a rfl hstatus⟩
  | .notice r text => ⟨_, .noticed r text⟩

/-- What the region of a task shows of what it gives. -/
def shown : Except Trouble Fragment → Content
  | .ok f => .rendered f
  | .error t => .failed t.message

theorem content_fill {result : Except Trouble Fragment} (h : task.Gives base outcome result) :
    task.fill.content base outcome = shown result := by
  cases h with
  | refused r t => rfl
  | noticed r text => rfl
  | unsent r c f request =>
    rw [fill, Operation.submit, Fill.content, Call.ending, request]
    exact c.content_of_failure f
  | failed r c q request f ending =>
    subst ending
    rw [fill, Operation.submit, Fill.content, Call.ending, request]
    exact c.content_of_failure f
  | rejected r c q request a ending status =>
    subst ending
    rw [fill, Operation.submit, Fill.content, Call.ending, request]
    exact c.content_of_rejection status
  | unread r c q request a ending status e body =>
    subst ending
    rw [fill, Operation.submit, Fill.content, Call.ending, request]
    simp only [c.content_of_success status, body, shown]
  | answered r c q request a ending status answer body =>
    subst ending
    rw [fill, Operation.submit, Fill.content, Call.ending, request]
    simp only [c.content_of_success status, body, shown]

def IsError (r : RegionId) (html : String) : Prop :=
  ∃ inner, html = "<div id=\"" ++ r.name ++ "\" class=\"error\">" ++ inner

/-- What the element of its region is after a task: it has the class of errors exactly if the task
gives a trouble, and shows its words then. -/
structure Shows (base : String) (outcome : Outcome) (task : Task) (html : String) : Prop where
  error_iff : IsError task.region html ↔ ∃ t, task.Gives base outcome (.error t)
  trouble : ∀ t, task.Gives base outcome (.error t) →
    html = "<div id=\"" ++ task.region.name ++ "\" class=\"error\"><p>" ++ escape t.message ++
      "</p></div>"
  fragment : ∀ f, task.Gives base outcome (.ok f) →
    html = "<div id=\"" ++ task.region.name ++ "\">" ++ f.html ++ "</div>"

theorem shows (base : String) (outcome : Outcome) (task : Task) (n : Nat) :
    task.Shows base outcome (Region.html ⟨task.fill.content base outcome, n⟩ task.region) := by
  have htrouble (t) (h : task.Gives base outcome (.error t)) :
      Region.html ⟨task.fill.content base outcome, n⟩ task.region =
        "<div id=\"" ++ task.region.name ++ "\" class=\"error\"><p>" ++ escape t.message ++
          "</p></div>" := by
    rw [content_fill h]
    rfl
  have hfragment (f) (h : task.Gives base outcome (.ok f)) :
      Region.html ⟨task.fill.content base outcome, n⟩ task.region =
        "<div id=\"" ++ task.region.name ++ "\">" ++ f.html ++ "</div>" := by
    rw [content_fill h]
    rfl
  refine ⟨⟨fun ⟨inner, herror⟩ => ?_, fun ⟨t, h⟩ => ?_⟩, htrouble, hfragment⟩
  · obtain ⟨t | f, h⟩ := exists_gives base outcome task
    · exact ⟨t, h⟩
    · -- the tag of a fragment ends where that of a trouble has a class
      have hchars := congrArg String.toList (hfragment f h ▸ herror)
      simp at hchars
  · refine ⟨"<p>" ++ escape t.message ++ "</p></div>", ?_⟩
    rw [htrouble t h, ← String.toList_inj]
    simp

end Task

/-- The tasks that load a restaurant, or ask for one if there is none to load. -/
def Task.loading : Option String → List Task
  | some name => [.ask .details (.ok (.detail name)), .ask .reviews (.ok (.review name))]
  | none => [.notice .details "Pick a restaurant to see its details."]

/-- What a route makes of a request that it accepts: the title of the page, and its tasks by stages.
It accepts a request if the text, the number or the form that it needs can be read from it. -/
inductive Route.Makes (service : Service) (request : Web.Request) :
    Route → String → List (List Task) → Prop
  | home (requested : Option String) (read : request.optionalText "restaurant_name" = .ok requested)
      (selected : Option String)
      (select : selectRestaurant service.defaultRestaurant requested = selected) :
      Makes service request .home (selected.getD "") [Task.loading selected]
  | reserve (form : Form) (read : request.form = .ok form) (selected : Option String)
      (select : selectRestaurant service.defaultRestaurant (some (form.value .restaurantName)) =
        selected) :
      Makes service request .reserve (selected.getD "")
        [.ask .reservationMessage (.ok (.reserve form.reservation)) :: Task.loading selected]
  | review (form : Form) (read : request.form = .ok form) (selected : Option String)
      (select : selectRestaurant service.defaultRestaurant (some (form.value .restaurantName)) =
        selected) :
      Makes service request .review (selected.getD "")
        [[.ask .reservationMessage (form.review.map .postReview)], Task.loading selected]
  | restaurant (form : Form) (read : request.form = .ok form) :
      Makes service request .restaurant ""
        [[.ask .reservationMessage (form.restaurant.map .postDetail)]]
  | reviews (name : String) (read : request.requiredText "restaurant_name" = .ok name) :
      Makes service request .reviews name [[.ask .reviews (.ok (.search name))]]
  | reservations (user : String) (read : request.requiredText "user_name" = .ok user) :
      Makes service request .reservations "" [[.ask .reservations (.ok (.reservation user))]]
  | popular (count : UInt32) (read : request.requiredNumber "topk" = .ok count) :
      Makes service request .popular "" [[.ask .popular (.ok (.popular count))]]

theorem selectRestaurant_eq_none (default : String) (requested : Option String) :
    selectRestaurant default requested = none ↔
      (∀ name ∈ requested, trim name = "") ∧ trim default = "" := by
  have hproper (name : String) : properName name = none ↔ trim name = "" := by
    rw [properName]
    split_ifs with h <;> simp [h]
  simp only [selectRestaurant, Option.or_eq_none_iff, hproper, Option.bind_eq_none_iff]
  rfl

theorem Task.fills_load (selected : Option String) :
    (PagePlan.load selected).fills = (Task.loading selected).map Task.fill := by
  cases selected <;> rfl

namespace Route

variable {service : Service} {request : Web.Request} {route : Route} {title : String}
  {stages : List (List Task)}

/-- The steps of the page are the stages, task by task. -/
theorem Makes.plan_eq (h : route.Makes service request title stages) :
    ∃ plan, route.plan service request = .ok plan ∧ plan.title = title ∧
      plan.steps.map Step.fills = stages.map (·.map Task.fill) := by
  cases h with
  | home requested read selected select =>
    exact ⟨.home service requested, by simp [Route.plan, read], by simp [PagePlan.home, select],
      by simp [PagePlan.home, select, Task.fills_load]⟩
  | reserve form read selected select =>
    refine ⟨.reserve service form, by simp [Route.plan, read], ?_, ?_⟩
    · simp [PagePlan.reserve, PagePlan.selectedBy, select]
    · simp [PagePlan.reserve, PagePlan.selectedBy, select, PagePlan.together, Operation.step,
        Task.fills_load, Task.fill, Operation.submit]
  | review form read selected select =>
    refine ⟨.review service form, by simp [Route.plan, read], ?_, ?_⟩
    · simp [PagePlan.review, PagePlan.selectedBy, select]
    · simp [PagePlan.review, PagePlan.selectedBy, select, Operation.step, Task.fills_load,
        Task.fill]
  | restaurant form read => exact ⟨.restaurant form, by simp [Route.plan, read], rfl, rfl⟩
  | reviews _ read => exact ⟨.search _, by simp [Route.plan, read], rfl, rfl⟩
  | reservations user read => exact ⟨.reservation user, by simp [Route.plan, read], rfl, rfl⟩
  | popular count read => exact ⟨.popular count, by simp [Route.plan, read], rfl, rfl⟩

theorem Makes.nodup (h : route.Makes service request title stages) :
    (stages.flatten.map Task.region).Nodup := by
  have hloading : ∀ selected,
      (.reservationMessage :: (Task.loading selected).map Task.region).Nodup := by
    rintro (_ | name) <;> simp [Task.loading, Task.region]
  cases h with
  | home requested read selected select => simpa using (hloading selected).of_cons
  | reserve form read selected select => simpa [Task.region] using hloading selected
  | review form read selected select => simpa [Task.region] using hloading selected
  | _ => simp

end Route

/-! ## The answers -/

namespace Service

def requests (service : Service) (backend : Backend σ) (request : Web.Request) (state : σ) :
    List Request :=
  (service.respond backend.recorded request (state, [])).state.2

/-- A request is answered by its tasks with that document: on its page, each region of a task is
written once, by what its own task gives, and the other regions are not written. -/
structure Answers (service : Service) (backend : Backend σ) (request : Web.Request) (state : σ)
    (title : String) (stages : List (List Task)) (d : Document) : Prop where
  page : (service.respond backend request state).response =
    (Web.Response.html 200 (d.page title)).answering request
  distinct : (stages.flatten.map Task.region).Nodup
  other : ∀ r, r ∉ stages.flatten.map Task.region → d.region r = .fresh
  once : ∀ task ∈ stages.flatten, (d.region task.region).writes = 1
  shown : ∀ task ∈ stages.flatten, ∃ outcome,
    Step.Ends backend service.backendUrl state (stages.map (·.map Task.fill)) task.fill outcome ∧
      task.Shows service.backendUrl outcome ((d.region task.region).html task.region)
  asked : service.requests backend request state =
    stages.flatten.filterMap (Task.request? service.backendUrl)

variable {service : Service} {request : Web.Request} {route : Route}

theorem respond_of_plan {plan : PagePlan} (h : service.plan request = .ok plan)
    (backend : Backend σ) (state : σ) :
    service.respond backend request state =
      ⟨(plan.response (plan.run backend service.backendUrl state).document).answering request,
        (plan.run backend service.backendUrl state).events,
        (plan.run backend service.backendUrl state).state⟩ := by
  unfold respond
  rw [h]

theorem requests_eq {plan : PagePlan} (h : service.plan request = .ok plan) (backend : Backend σ)
    (state : σ) :
    service.requests backend request state =
      (plan.steps.flatMap Step.fills).filterMap (Fill.request? service.backendUrl) := by
  rw [requests, respond_of_plan h]
  exact plan.requests_run backend _ state

/-- A plan that is made of the stages writes their regions. -/
theorem answers_of_plan {plan : PagePlan} (hplan : service.plan request = .ok plan)
    {stages : List (List Task)} (hsteps : plan.steps.map Step.fills = stages.map (·.map Task.fill))
    (hnodup : (stages.flatten.map Task.region).Nodup) (backend : Backend σ) (state : σ) :
    service.Answers backend request state plan.title stages
      (plan.run backend service.backendUrl state).document := by
  have hfills : plan.steps.flatMap Step.fills = stages.flatten.map Task.fill := by
    rw [List.flatMap_def, hsteps, List.map_flatten]
  have hregions : (plan.steps.flatMap Step.fills).map Fill.region =
      stages.flatten.map Task.region := by
    rw [hfills, List.map_map]
    exact List.map_congr_left fun task _ => task.region_fill
  have hwritten : ∀ task ∈ stages.flatten, ∃ outcome,
      Step.Ends backend service.backendUrl state (stages.map (·.map Task.fill)) task.fill outcome ∧
        (plan.run backend service.backendUrl state).document.region task.region =
          Region.fresh.write (task.fill.content service.backendUrl outcome) := by
    intro task htask
    obtain ⟨outcome, hends, hregion⟩ := PagePlan.region_run (hregions ▸ hnodup) backend
      service.backendUrl state (hfills ▸ List.mem_map_of_mem htask)
    exact ⟨outcome, hsteps ▸ hends, Task.region_fill task ▸ hregion⟩
  refine ⟨?_, hnodup, fun r hr => ?_, fun task htask => ?_, fun task htask => ?_, ?_⟩
  · rw [respond_of_plan hplan, PagePlan.response]
  · exact PagePlan.region_run_of_notMem (hregions ▸ hnodup) backend _ state (hregions ▸ hr)
  · obtain ⟨outcome, -, hregion⟩ := hwritten task htask
    rw [hregion]
    rfl
  · obtain ⟨outcome, hends, hregion⟩ := hwritten task htask
    exact ⟨outcome, hends, hregion ▸ task.shows service.backendUrl outcome 1⟩
  · rw [requests_eq hplan, hfills, List.filterMap_map]
    exact List.filterMap_congr fun task _ => task.request?_fill service.backendUrl

theorem exists_answers {title : String} {stages : List (List Task)}
    (hpath : request.path = route.path) (hmethod : route.allows request.method)
    (h : route.Makes service request title stages) (backend : Backend σ) (state : σ) :
    ∃ d, service.Answers backend request state title stages d := by
  obtain ⟨plan, hplan, rfl, hsteps⟩ := h.plan_eq
  rw [← plan_of_route hpath hmethod] at hplan
  exact ⟨_, answers_of_plan hplan hsteps h.nodup backend state⟩

/-- Trouble stays in its region: whatever the backend does, and whatever is made of the forms, a
request that a route accepts is answered with status 200 and a page. Each region of the route's
tasks is written once, by its own task, and no other region is written. A region has the class of
errors exactly if its own task gives a trouble, and then it shows the escaped words of the trouble.
Only the requests of the tasks are made; no restaurant is loaded exactly if neither the request nor
the settings name one. -/
theorem keeps_trouble_in_its_region (service : Service) (backend : Backend σ) (state : σ)
    {request : Web.Request} {route : Route} {title : String} {stages : List (List Task)}
    (hpath : request.path = route.path) (hmethod : route.allows request.method)
    (h : route.Makes service request title stages) :
    (∃ d, service.Answers backend request state title stages d) ∧
      ∀ requested, selectRestaurant service.defaultRestaurant requested = none ↔
        (∀ name ∈ requested, trim name = "") ∧ trim service.defaultRestaurant = "" :=
  ⟨exists_answers hpath hmethod h backend state, selectRestaurant_eq_none _⟩

/-- Without a number in the form, and without a network. -/
theorem trouble_of_unreached_review :
    let service : Service := ⟨"http://[::1]:8080", "Roma"⟩
    let form : Form := [("restaurant-name", " "), ("rating", "five")]
    let request : Web.Request := .posting "/review" form
    let refusal : Trouble := .invalidInput "rating must be a number, got `five`"
    let stages : List (List Task) := [[.ask .reservationMessage (.error refusal)],
      [.ask .details (.ok (.detail "Roma")), .ask .reviews (.ok (.review "Roma"))]]
    request.path = Route.review.path ∧ Route.review.allows request.method ∧
      Route.review.Makes service request "Roma" stages ∧
      (∃ d, service.Answers (offline Unit) request () "Roma" stages d) ∧
      (stages.flatten.filterMap (Task.request? service.backendUrl)).length = 2 := by
  intro service form request refusal stages
  have hpath : request.path = Route.review.path :=
    (Web.Request.path_posting_eq "/review" form).trans (by decide +kernel : _ = "/review")
  have hform : request.form = .ok form :=
    (Web.Request.submits_posting "/review" (by decide +kernel)).form_eq
  have hselect : selectRestaurant service.defaultRestaurant
      (some (form.value .restaurantName)) = some "Roma" := by
    decide +kernel
  have hrefused : form.review.map Call.postReview = .error refusal := by
    decide +kernel
  have hmakes : Route.review.Makes service request "Roma" stages := by
    have hreview : Route.review.Makes service request "Roma"
        [[.ask .reservationMessage (form.review.map .postReview)], Task.loading (some "Roma")] :=
      .review form hform _ hselect
    rwa [hrefused] at hreview
  exact ⟨hpath, rfl, hmakes,
    (keeps_trouble_in_its_region service (offline Unit) () hpath rfl hmakes).1, by decide +kernel⟩

end Service

end Bistro
