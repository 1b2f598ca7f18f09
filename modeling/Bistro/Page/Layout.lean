import Bistro.Page.Document
import Bistro.Page.Form

/-!
# The page

The page around the regions: its title, the three forms, and the regions in their places. The name
of the restaurant stands in the title and in the forms for reservations and reviews.
-/

namespace Bistro

/-- The element of a region. -/
def Region.html (r : Region) (id : RegionId) : String :=
  match r.content with
  | .empty => "<div id=\"" ++ id.name ++ "\"></div>"
  | .rendered f => "<div id=\"" ++ id.name ++ "\">" ++ f.html ++ "</div>"
  | .failed message =>
    "<div id=\"" ++ id.name ++ "\" class=\"error\"><p>" ++ escape message ++ "</p></div>"

/-- A labelled input of a form. -/
structure Field where
  id : String
  control : Control
  label : String
  value : String
  deriving DecidableEq, Repr

def Field.html (f : Field) : String :=
  "<label for=\"" ++ f.id ++ "\">" ++ f.label ++ "</label><input type=\"text\" id=\"" ++ f.id ++
    "\" name=\"" ++ f.control.name ++ "\" value=\"" ++ escape f.value ++ "\">"

/-- A form of the page. -/
structure FormLayout where
  id : String
  action : String
  fields : List Field
  button : String
  deriving DecidableEq, Repr

def FormLayout.html (f : FormLayout) : String :=
  "<form id=\"" ++ f.id ++ "\" method=\"post\" action=\"" ++ f.action ++ "\">" ++
    String.join (f.fields.map Field.html) ++ "<button type=\"submit\">" ++ f.button ++
    "</button></form>"

namespace FormLayout

def reservation (restaurant : String) : FormLayout where
  id := "reservation-form"
  action := "/reserve"
  fields := [⟨"user-name", .userName, "Name", ""⟩,
    ⟨"restaurant-name", .restaurantName, "Restaurant", restaurant⟩,
    ⟨"year", .year, "Year", ""⟩, ⟨"month", .month, "Month", ""⟩, ⟨"day", .day, "Day", ""⟩]
  button := "Reserve"

def review (restaurant : String) : FormLayout where
  id := "review-form"
  action := "/review"
  fields := [⟨"review-user-name", .userName, "Name", ""⟩,
    ⟨"review-restaurant-name", .restaurantName, "Restaurant", restaurant⟩,
    ⟨"review-text", .review, "Review", ""⟩, ⟨"review-rating", .rating, "Rating", ""⟩]
  button := "Post review"

def restaurant : FormLayout where
  id := "restaurant-form"
  action := "/restaurant"
  fields := [⟨"new-restaurant-name", .restaurantName, "Restaurant", ""⟩,
    ⟨"new-location", .location, "Location", ""⟩, ⟨"new-style", .style, "Style", ""⟩,
    ⟨"new-capacity", .capacity, "Capacity", ""⟩]
  button := "Save restaurant"

end FormLayout

/-- The whole page of a document, for the restaurant of that name. -/
def Document.page (d : Document) (restaurant : String) : String :=
  let region (id : RegionId) : String := (d.region id).html id
  "<!DOCTYPE html><html><head><meta charset=\"utf-8\"><title>" ++ escape restaurant ++
    "</title></head><body>" ++ region .details ++ region .reviews ++
    (FormLayout.reservation restaurant).html ++ region .reservationMessage ++
    (FormLayout.review restaurant).html ++ FormLayout.restaurant.html ++
    region .reservations ++ region .popular ++ "</body></html>"

end Bistro
