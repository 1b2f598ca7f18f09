import Bistro.Backend.Call
import Bistro.Page.Document
import Bistro.Page.Form

/-!
# Operations of the page

What the page does on events: each operation fills regions, by calls to the backend whose answers
they show. Calls of one step are under way together. Whatever fails, fails in the region of its
fill.
-/

namespace Bistro

/-- What happened, for the log. -/
inductive Event where
  | loading (restaurant : String)
  | called (endpoint input : String) (trouble : Option Trouble)
  | unfilled (region : RegionId) (text : String)
  deriving DecidableEq, Repr

/-- How a region is filled: by the answer to a call, or right away. -/
inductive Fill where
  | ask (region : RegionId) (call : Call)
  | put (region : RegionId) (content : Content)
  deriving Repr

/-- What a fill comes to. -/
structure Settled where
  region : RegionId
  content : Content
  events : List Event
  deriving Repr

/-- The content that shows a trouble, with its entry in the log. -/
def unfilled (region : RegionId) (text : String) : Settled :=
  ⟨region, .failed text, [.unfilled region text]⟩

namespace Fill

def region : Fill → RegionId
  | .ask region _ => region
  | .put region _ => region

/-- The request of the fill to the backend at `base`, if it makes one that can be sent. -/
def request? (base : String) : Fill → Option Request
  | .ask _ call => (call.request base).toOption
  | .put .. => none

/-- What the fill comes to when its call has that outcome. -/
def conclude (outcome : Outcome) : Fill → Settled
  | .ask region call =>
    let entry (t : Option Trouble) : Event := .called call.endpoint.path call.input t
    match call.conclude outcome with
    | .ok answer => ⟨region, .rendered (call.fragment answer), [entry none]⟩
    | .error t =>
      let failed := unfilled region t.message
      { failed with events := entry (some t) :: failed.events }
  | .put region (.failed text) => unfilled region text
  | .put region content => ⟨region, content, []⟩

/-- What the fill comes to; a call whose request cannot be sent fails without asking. -/
def settle (base : String) (outcome : Outcome) (fill : Fill) : Settled :=
  match fill with
  | .ask _ call =>
    match call.request base with
    | .ok _ => fill.conclude outcome
    | .error f => fill.conclude (.error f)
  | .put .. => fill.conclude outcome

end Fill

/-- Fills that are done together. -/
structure Step where
  notes : List Event
  fills : List Fill
  deriving Repr

/-- A document with what happened to it. -/
structure Trace where
  document : Document
  events : List Event
  deriving Repr

/-- The trace before anything happened. -/
def Trace.fresh : Trace :=
  ⟨.fresh, []⟩

/-- A trace, and where the backend is in what it goes through. -/
structure Progress (σ : Type) extends Trace where
  state : σ

namespace Step

/-- Gives the outcomes to the fills that made a request, in order. -/
def settleAll (base : String) (outcomes : Nat → Outcome) : Nat → List Fill → List Settled
  | _, [] => []
  | i, fill :: rest =>
    fill.settle base (outcomes i) ::
      settleAll base outcomes (if (fill.request? base).isSome then i + 1 else i) rest

/-- The requests of the step, in order. -/
def requests (base : String) (step : Step) : List Request :=
  step.fills.filterMap (Fill.request? base)

/-- Fills the regions, once every request has its outcome. -/
def finish (base : String) (outcomes : Nat → Outcome) (step : Step) (t : Trace) : Trace :=
  let settled := settleAll base outcomes 0 step.fills
  { document := settled.foldl (fun d s => d.write s.region s.content) t.document
    events := t.events ++ step.notes ++ settled.flatMap (·.events) }

/-- Makes all requests of the step at once and fills the regions. -/
def run (backend : Backend σ) (base : String) (step : Step) (p : Progress σ) : Progress σ :=
  let (outcomes, state) := backend.exchange p.state (step.requests base)
  { step.finish base outcomes p.toTrace with state }

end Step

/-- What the page can be asked to do. -/
inductive Operation where
  | ready (restaurant : String)
  | loadDetails (region : RegionId) (restaurant : String)
  | loadReviews (region : RegionId) (restaurant : String)
  | searchReviews (region : RegionId) (restaurant : String)
  | loadReservation (region : RegionId) (user : String)
  | loadPopular (region : RegionId) (count : UInt32)
  | submitReservation (region : RegionId) (form : Form)
  | submitReview (region : RegionId) (form : Form)
  | submitRestaurant (region : RegionId) (form : Form)
  deriving DecidableEq, Repr

namespace Operation

/-- The fill of a submitted form, which may not even make a request. -/
def submit (region : RegionId) (call : Except Trouble Call) : Fill :=
  match call with
  | .ok c => .ask region c
  | .error t => .put region (.failed t.message)

def step : Operation → Step
  | .ready restaurant =>
    ⟨[.loading restaurant],
      [.ask .details (.detail restaurant), .ask .reviews (.review restaurant)]⟩
  | .loadDetails region restaurant => ⟨[], [.ask region (.detail restaurant)]⟩
  | .loadReviews region restaurant => ⟨[], [.ask region (.review restaurant)]⟩
  | .searchReviews region restaurant => ⟨[], [.ask region (.search restaurant)]⟩
  | .loadReservation region user => ⟨[], [.ask region (.reservation user)]⟩
  | .loadPopular region count => ⟨[], [.ask region (.popular count)]⟩
  | .submitReservation region form => ⟨[], [.ask region (.reserve form.reservation)]⟩
  | .submitReview region form => ⟨[], [submit region (form.review.map .postReview)]⟩
  | .submitRestaurant region form => ⟨[], [submit region (form.restaurant.map .postDetail)]⟩

/-- Submits are answered in place, so each of them keeps the browser from leaving the page. -/
def prevents : Operation → Nat
  | .submitReservation .. | .submitReview .. | .submitRestaurant .. => 1
  | _ => 0

end Operation

/-- A visit to the page: its document, and how often a submit kept the browser on it. -/
structure Visit (σ : Type) where
  progress : Progress σ
  prevented : Nat

def Visit.perform (backend : Backend σ) (base : String) (op : Operation) (v : Visit σ) :
    Visit σ where
  progress := op.step.run backend base v.progress
  prevented := v.prevented + op.prevents

end Bistro
