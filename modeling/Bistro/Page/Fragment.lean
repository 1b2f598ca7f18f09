import Bistro.Model.Reservation
import Bistro.Model.Restaurant
import Bistro.Model.Review
import Bistro.Page.Escape

/-!
# Fragments

What a region of the page can show, and its markup.
-/

namespace Bistro

/-- What a region of the page can show. -/
inductive Fragment where
  | details (d : RestaurantDetails)
  | reviews (list : ReviewList)
  | message (text : String)
  | reservation (r : Reservation)
  | popular (p : PopularRestaurants)
  | verbatim (html : String)
  deriving Repr

namespace Fragment

/-- How an extra member is shown: a text as it is, any other value as compact JSON. -/
def shown : Json → String
  | .text s => s
  | v => v.write

def integer (z : Int32) : String :=
  Decimal.write z.toInt

/-- A term of the list of details, and what belongs to it. -/
def term (name value : String) : String :=
  "<dt>" ++ name ++ "</dt><dd>" ++ value ++ "</dd>"

def detailsHtml (d : RestaurantDetails) : String :=
  "<h2>" ++ escape d.restaurantName ++ "</h2><dl>" ++
    term "Location" (escape d.location) ++
    term "Style" (escape d.style) ++
    term "Capacity" (integer d.capacity) ++
    String.join (d.extra.map fun m => term (escape m.1) (escape (shown m.2))) ++ "</dl>"

def reviewHtml (r : Review) : String :=
  "<li><strong>" ++ escape r.userName ++ "</strong> (" ++ integer r.rating ++ "/5): " ++
    escape r.review ++ "</li>"

def reviewsHtml (list : ReviewList) : String :=
  if list.isEmpty then "<p>No reviews yet.</p>"
  else "<ul>" ++ String.join (list.reviews.map reviewHtml) ++ "</ul>"

def messageHtml (text : String) : String :=
  "<p>" ++ escape text ++ "</p>"

def reservationHtml (r : Reservation) : String :=
  "<p>" ++ escape r.userName ++ " has a table at " ++ escape r.restaurantName ++ " on " ++
    integer r.time.year ++ "-" ++ integer r.time.month ++ "-" ++ integer r.time.day ++ "</p>"

def popularHtml (p : PopularRestaurants) : String :=
  let item (name : String) : String := "<li>" ++ escape name ++ "</li>"
  "<ol>" ++ String.join (p.topRestaurants.map item) ++ "</ol>"

def html : Fragment → String
  | .details d => detailsHtml d
  | .reviews list => reviewsHtml list
  | .message text => messageHtml text
  | .reservation r => reservationHtml r
  | .popular p => popularHtml p
  | .verbatim html => html

end Fragment

end Bistro
