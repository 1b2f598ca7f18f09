import Bistro.Model.Record

/-!
# Restaurants

The details of a restaurant, with whatever else the backend knows about it, a restaurant to be
saved, and the names of the most popular ones.
-/

namespace Bistro

/-- The details of a restaurant. Members that no field takes are kept, sorted by name. -/
structure RestaurantDetails where
  restaurantName : String
  location : String
  style : String
  capacity : Int32
  extra : List (String × Json)
  deriving Repr

namespace RestaurantDetails

/-- The fields that every restaurant has. The backend leaves out those that are empty. -/
def fields : Fields :=
  .cons "restaurant_name" false .text <| .cons "location" false .text <|
    .cons "style" false .text <| .cons "capacity" false .integer .nil

def ofRow (row : fields.Row) (extra : List (String × Json)) : RestaurantDetails :=
  let (name, location, style, capacity, ()) := row
  ⟨name, location, style, capacity, sortMembers (Json.tidyMembers extra)⟩

/-- Reads details from an object; members that are no field are read as values, last one first. -/
def reader (levels : Nat) : Json.Reader RestaurantDetails := fun s =>
  match Json.skipSpaces s with
  | '\x7b' :: rest =>
    match levels with
    | 0 => .error (.on .tooDeep ('\x7b' :: rest))
    | inner + 1 =>
      match Json.readMembersWith
        (fun (state : fields.Slots × List (String × Json)) name r =>
          match fields.readMember inner state.1 name r with
          | some read => read.map fun x => ((x.1, state.2), x.2)
          | none =>
            (Json.readMemberValue (Json.readValue inner) r).map fun x =>
              ((state.1, (name, x.1) :: state.2), x.2))
        (rest.length + 1) true (fields.noSlots, []) rest with
      | .error e => .error e
      | .ok ((slots, extra), r) =>
        match fields.complete slots with
        | .error field => .error (.behind '\x7d' (.missingField field) r)
        | .ok row => (Json.closeObject r).map fun r' => (ofRow row extra.reverse, r')
  | r => .error (Json.wrongTypeFault "struct RestaurantDetails" r)

/-- Reads details from a text. -/
def read (text : String) : Except Json.ReadError RestaurantDetails :=
  Json.readAll (reader Json.maxLevels) text

/-- The row of the fields that every restaurant has. -/
def row (d : RestaurantDetails) : fields.Row :=
  (d.restaurantName, d.location, d.style, d.capacity, ())

def json (d : RestaurantDetails) : Json :=
  .object (fields.members d.row ++ d.extra)

end RestaurantDetails

/-- A restaurant on its way to the backend. -/
structure RestaurantRequest where
  restaurantName : String
  location : String
  style : String
  capacity : Int32
  deriving DecidableEq, Repr

instance : Record RestaurantRequest where
  shape := .record "PostDetailRequest" <|
    .cons "restaurant_name" true .text <| .cons "location" true .text <|
    .cons "style" true .text <| .cons "capacity" true .integer .nil
  ofValue := fun (r, l, s, c, ()) => ⟨r, l, s, c⟩
  toValue := fun r => (r.restaurantName, r.location, r.style, r.capacity, ())

/-- Whether something was written; an answer that does not say so means no. -/
structure PostStatus where
  status : Bool
  deriving DecidableEq, Repr

instance : Record PostStatus where
  shape := .record "PostStatus" <| .cons "status" false .boolean .nil
  ofValue := fun (s, ()) => ⟨s⟩
  toValue := fun r => (r.status, ())

/-- The names of the most popular restaurants, the most popular one first. -/
structure PopularRestaurants where
  topRestaurants : List String
  deriving DecidableEq, Repr

instance : Record PopularRestaurants where
  shape := .record "PopularRestaurants" <| .cons "top_k_restaurants" false (.list .text) .nil
  ofValue := fun (names, ()) => ⟨names⟩
  toValue := fun p => (p.topRestaurants, ())

end Bistro
