import Bistro.Model.Record

/-!
# Reviews

A review, a review to be posted, and the lists of reviews that the backend answers with. Such a list
has several forms: nothing, reviews in a list, one review alone, and reviews by the name of their
user. The forms are tried in this order.
-/

namespace Bistro

structure Review where
  userName : String
  restaurantName : String
  review : String
  rating : Int32
  deriving DecidableEq, Repr

instance : Record Review where
  shape := .record "Review" <|
    .cons "user_name" true .text <| .cons "restaurant_name" false .text <|
    .cons "review" false .text <| .cons "rating" false .integer .nil
  ofValue := fun (u, r, t, n, ()) => ⟨u, r, t, n⟩
  toValue := fun r => (r.userName, r.restaurantName, r.review, r.rating, ())

/-- A review on its way to the backend, which wants every field. -/
structure ReviewRequest where
  userName : String
  restaurantName : String
  review : String
  rating : Int32
  deriving DecidableEq, Repr

instance : Record ReviewRequest where
  shape := .record "PostReviewRequest" <|
    .cons "user_name" true .text <| .cons "restaurant_name" true .text <|
    .cons "review" true .text <| .cons "rating" true .integer .nil
  ofValue := fun (u, r, t, n, ()) => ⟨u, r, t, n⟩
  toValue := fun r => (r.userName, r.restaurantName, r.review, r.rating, ())

/-- The reviews of a restaurant, in the order in which they are shown. -/
structure ReviewList where
  reviews : List Review
  deriving DecidableEq, Repr

namespace ReviewList

/-- Nothing was found. -/
def ofNothing : Json → Option (List Review)
  | .null => some []
  | _ => none

/-- Reviews in a list. -/
def ofList : Json → Option (List Review)
  | .list items => items.mapM Record.fit
  | _ => none

/-- One review alone. -/
def ofSingle (v : Json) : Option (List Review) :=
  (Record.fit v).map fun r => [r]

/-- Reviews by the name of their user, all of which have to be reviews; the last one of each name
counts, and they are taken in the order of the names. -/
def ofNamed (members : List (String × Json)) : Option (List Review) :=
  (members.mapM fun m => (Record.fit m.2).map fun r => (m.1, r)).map fun named =>
    (sortMembers named).map (·.2)

/-- An object with the named reviews as its one member `reviews_map`. -/
def ofSearch : Json → Option (List Review)
  | .object members =>
    match members.filter fun m => m.1 = "reviews_map" with
    | [(_, .object named)] => ofNamed named
    | _ => none
  | _ => none

/-- An object without members, as is left of named reviews when there are none. -/
def ofEmpty : Json → Option (List Review)
  | .object [] => some []
  | _ => none

/-- The reviews in a value, in the first of the forms that it has. -/
def ofJson (v : Json) : Option ReviewList :=
  ((ofNothing v).or <| (ofList v).or <| (ofSingle v).or <| (ofSearch v).or <| ofEmpty v).map .mk

/-- Reads a list of reviews from a text. A value in none of the forms is refused, whatever follows
it. -/
def read (text : String) : Except Json.ReadError ReviewList :=
  let s := text.toList
  match Json.readValue Json.maxLevels s with
  | .error e => .error (e.inText s)
  | .ok (v, rest) =>
    match ofJson v with
    | some list => Json.finish s rest list
    | none => .error ⟨.noVariant "ReviewListWire", none⟩

def json (list : ReviewList) : Json :=
  .list (list.reviews.map Record.json)

def isEmpty (list : ReviewList) : Bool :=
  list.reviews.isEmpty

end ReviewList

end Bistro
