import Bistro.Page.Layout
import Bistro.Page.Operation
import Bistro.Service.Selection
import Bistro.Web.Query

/-!
# Pages

The addresses of the service and what is done to make the page of each: one or more steps on a fresh
document, one after the other. Within a step all calls are under way together, so the page after a
reservation loads the restaurant beside the request, and the page after a review loads it when the
review has been posted.
-/

namespace Bistro

/-- A backend and the restaurant that is shown when none is named. -/
structure Service where
  backendUrl : String
  defaultRestaurant : String
  deriving DecidableEq, Repr

/-- What makes a page: its steps, and the name of the restaurant that it is titled with. -/
structure PagePlan where
  steps : List Step
  title : String
  deriving Repr

namespace PagePlan

/-- Loads a restaurant, or asks for one if there is none. -/
def load : Option String → Step
  | some restaurant => (Operation.ready restaurant).step
  | none => ⟨[], [.put .details (.rendered (.message "Pick a restaurant to see its details."))]⟩

def home (service : Service) (requested : Option String) : PagePlan :=
  let selected := selectRestaurant service.defaultRestaurant requested
  ⟨[load selected], selected.getD ""⟩

/-- The restaurant that the form names, else the one that is shown by default. -/
def selectedBy (service : Service) (form : Form) : Option String :=
  selectRestaurant service.defaultRestaurant (some (form.value .restaurantName))

/-- Steps that are taken together. -/
def together (a b : Step) : Step :=
  ⟨a.notes ++ b.notes, a.fills ++ b.fills⟩

def reserve (service : Service) (form : Form) : PagePlan :=
  let selected := selectedBy service form
  ⟨[together (Operation.submitReservation .reservationMessage form).step (load selected)],
    selected.getD ""⟩

def review (service : Service) (form : Form) : PagePlan :=
  let selected := selectedBy service form
  ⟨[(Operation.submitReview .reservationMessage form).step, load selected], selected.getD ""⟩

def restaurant (form : Form) : PagePlan :=
  ⟨[(Operation.submitRestaurant .reservationMessage form).step], ""⟩

def search (name : String) : PagePlan :=
  ⟨[(Operation.searchReviews .reviews name).step], name⟩

def reservation (user : String) : PagePlan :=
  ⟨[(Operation.loadReservation .reservations user).step], ""⟩

def popular (count : UInt32) : PagePlan :=
  ⟨[(Operation.loadPopular .popular count).step], ""⟩

/-- The page that the plan makes of a document. -/
def response (plan : PagePlan) (document : Document) : Web.Response :=
  .html 200 (document.page plan.title)

/-- Takes the steps on a fresh document. -/
def run (backend : Backend σ) (base : String) (plan : PagePlan) (state : σ) : Progress σ :=
  plan.steps.foldl (fun p step => step.run backend base p) ⟨.fresh, state⟩

end PagePlan

/-- The addresses of the service. -/
inductive Route where
  | health
  | home
  | popular
  | restaurant
  | reviews
  | reserve
  | reservations
  | review
  deriving DecidableEq, Repr

namespace Route

def path : Route → String
  | .health => "/health"
  | .home => "/"
  | .popular => "/popular"
  | .restaurant => "/restaurant"
  | .reviews => "/reviews"
  | .reserve => "/reserve"
  | .reservations => "/reservations"
  | .review => "/review"

def all : List Route :=
  [.health, .home, .popular, .restaurant, .reviews, .reserve, .reservations, .review]

def ofPath? (path : String) : Option Route :=
  all.find? fun r => r.path = path

/-- Whether the route takes posted forms, and nothing else. -/
def takesForm : Route → Bool
  | .restaurant | .reserve | .review => true
  | _ => false

/-- The methods that the route answers, as a refusal lists them. -/
def allowed (r : Route) : String :=
  if r.takesForm then "POST" else "GET,HEAD"

def allows (r : Route) (method : String) : Bool :=
  if r.takesForm then method == "POST" else method == "GET" || method == "HEAD"

/-- What a request asks the route for: a page to be made, or a response right away. -/
def plan (r : Route) (service : Service) (request : Web.Request) :
    Except Web.Response PagePlan :=
  let query (α : Type) (read : Except Web.QueryFault α) (f : α → PagePlan) :
      Except Web.Response PagePlan :=
    match read with
    | .ok a => .ok (f a)
    | .error e => .error e.response
  let form (f : Form → PagePlan) : Except Web.Response PagePlan :=
    match request.form with
    | .ok controls => .ok (f controls)
    | .error e => .error e.response
  match r with
  | .health => .error (.text 200 "ok")
  | .home => query _ (request.optionalText "restaurant_name") (.home service)
  | .popular => query _ (request.requiredNumber "topk") .popular
  | .reviews => query _ (request.requiredText "restaurant_name") .search
  | .reservations => query _ (request.requiredText "user_name") .reservation
  | .restaurant => form .restaurant
  | .reserve => form (.reserve service)
  | .review => form (.review service)

end Route

/-- A response with what happened on the way to it. -/
structure Served (σ : Type) where
  response : Web.Response
  events : List Event
  state : σ

namespace Service

/-- What a request asks for: a page to be made, or a response right away. -/
def plan (service : Service) (request : Web.Request) : Except Web.Response PagePlan :=
  match Route.ofPath? request.path with
  | none => .error (.empty 404)
  | some route =>
    if route.allows request.method then route.plan service request
    else .error ⟨405, [("allow", route.allowed)], ""⟩

/-- Answers a request. A `HEAD` request gets no body. -/
def respond (service : Service) (backend : Backend σ) (request : Web.Request) (state : σ) :
    Served σ :=
  match service.plan request with
  | .error response => ⟨response.answering request, [], state⟩
  | .ok plan =>
    let done := plan.run backend service.backendUrl state
    ⟨(plan.response done.document).answering request, done.events, done.state⟩

end Service

end Bistro
