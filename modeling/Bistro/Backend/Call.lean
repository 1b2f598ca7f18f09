import Bistro.Backend.Endpoint
import Bistro.Backend.Exchange
import Bistro.Page.Fragment
import Bistro.Page.Trouble
import Bistro.Text.Blank

/-!
# Calls to the backend

What the page asks the backend, with the parameters in the query, and how an outcome is understood:
a failed exchange is a network trouble, a status that is no success a rejection, and a body that
does not have the form of the answer a parse trouble. What is left is the answer.
-/

namespace Bistro

inductive Call where
  | detail (restaurant : String)
  | review (restaurant : String)
  | search (restaurant : String)
  | reservation (user : String)
  | popular (count : UInt32)
  | reserve (q : ReservationRequest)
  | postReview (q : ReviewRequest)
  | postDetail (q : RestaurantRequest)
  deriving DecidableEq, Repr

namespace Call

def endpoint : Call → Endpoint
  | .detail _ => .getDetail
  | .review _ => .getReview
  | .search _ => .searchReviews
  | .reservation _ => .getReservation
  | .popular _ => .mostPopular
  | .reserve _ => .makeReservation
  | .postReview _ => .postReview
  | .postDetail _ => .postDetail

def method : Call → Method
  | .detail _ | .review _ | .search _ | .reservation _ | .popular _ => .get
  | .reserve _ | .postReview _ | .postDetail _ => .post

/-- The parameters as a JSON object. -/
def json : Call → Json
  | .detail restaurant | .review restaurant | .search restaurant =>
    .object [("restaurant_name", .text restaurant)]
  | .reservation user => .object [("user_name", .text user)]
  | .popular count => .object [("topk", .number (.integer count.toNat))]
  | .reserve q => Record.json q
  | .postReview q => Record.json q
  | .postDetail q => Record.json q

/-- The parameters as a log shows them. -/
def input (c : Call) : String :=
  c.json.write

/-- The parameters by their names: texts as they are, numbers in decimal. -/
def pairs (c : Call) : List (String × String) :=
  match c.json with
  | .object members => members.map fun m => (m.1, Fragment.shown m.2)
  | _ => []

/-- What a call is answered with. -/
def Answer : Call → Type
  | .detail _ => RestaurantDetails
  | .review _ | .search _ => ReviewList
  | .reservation _ => Reservation
  | .popular _ => PopularRestaurants
  | .reserve _ => ReservationResponse
  | .postReview _ | .postDetail _ => PostStatus

def read : (c : Call) → String → Except Json.ReadError c.Answer
  | .detail _ => RestaurantDetails.read
  | .review _ | .search _ => ReviewList.read
  | .reservation _ => Record.read (α := Reservation)
  | .popular _ => Record.read (α := PopularRestaurants)
  | .reserve _ => Record.read (α := ReservationResponse)
  | .postReview _ | .postDetail _ => Record.read (α := PostStatus)

/-- What the page shows of an answer. -/
def fragment : (c : Call) → c.Answer → Fragment
  | .detail _, d => .details d
  | .review _, list | .search _, list => .reviews list
  | .reservation _, r => .reservation r
  | .popular _, p => .popular p
  | .reserve q, r => .message (ReservationResponse.outcome r q)
  | .postReview q, s =>
    .message <|
      if PostStatus.status s then
        "Thanks " ++ q.userName ++ ", your review of " ++ q.restaurantName ++ " was posted."
      else "Review was not recorded, please try again."
  | .postDetail q, s =>
    .message <|
      if PostStatus.status s then q.restaurantName ++ " was saved."
      else "Restaurant was not recorded, please try again."

/-- The request of a call to the backend at `base`. -/
def request (base : String) (c : Call) : Except Failure Request :=
  Request.make c.method (endpointUrl base c.endpoint.path) c.pairs

def isSuccess (status : Nat) : Bool :=
  200 ≤ status && status ≤ 299

/-- What an outcome means. -/
def conclude (c : Call) (outcome : Outcome) : Except Trouble c.Answer :=
  match outcome with
  | .error f => .error (.network f.message)
  | .ok a =>
    if isSuccess a.status then
      match c.read a.text with
      | .ok answer => .ok answer
      | .error e => .error (.parse c.endpoint.path e.message)
    else .error (.rejected c.endpoint.path a.status (trim a.text))

end Call

end Bistro
