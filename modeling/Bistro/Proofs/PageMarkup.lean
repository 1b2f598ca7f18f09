import Bistro.Page.Layout
import Bistro.Proofs.Markup

/-!
# The markup of the page

The page is written out as tags, each with the text behind it (`toList_page`). Every text that comes
from outside stands escaped, in a text or in a value, and numbers are plain, so this markup is clean
(`Document.clean_marks`) and can be cut into the very same tags and texts. Only a fragment that is
handed over as markup is left out: what is in it is not known.
-/

namespace Bistro

namespace Fragment

def termMarks (name value : String) : List Mark :=
  [.plain "dt" name, .plain "/dt" "", .plain "dd" value, .plain "/dd" ""]

def detailsMarks (d : RestaurantDetails) : List Mark :=
  [.plain "h2" (escape d.restaurantName), .plain "/h2" "", .plain "dl" ""] ++
    termMarks "Location" (escape d.location) ++ termMarks "Style" (escape d.style) ++
    termMarks "Capacity" (integer d.capacity) ++
    d.extra.flatMap (fun m => termMarks (escape m.1) (escape (shown m.2))) ++ [.plain "/dl" ""]

def reviewMarks (r : Review) : List Mark :=
  [.plain "li" "", .plain "strong" (escape r.userName),
    .plain "/strong" (" (" ++ integer r.rating ++ "/5): " ++ escape r.review), .plain "/li" ""]

def reviewsMarks (list : ReviewList) : List Mark :=
  if list.isEmpty then [.plain "p" "No reviews yet.", .plain "/p" ""]
  else [.plain "ul" ""] ++ list.reviews.flatMap reviewMarks ++ [.plain "/ul" ""]

def reservationText (r : Reservation) : String :=
  escape r.userName ++ " has a table at " ++ escape r.restaurantName ++ " on " ++
    integer r.time.year ++ "-" ++ integer r.time.month ++ "-" ++ integer r.time.day

def popularMarks (p : PopularRestaurants) : List Mark :=
  [.plain "ol" ""] ++
    p.topRestaurants.flatMap (fun name => [.plain "li" (escape name), .plain "/li" ""]) ++
    [.plain "/ol" ""]

/-- The markup of a fragment that is not handed over as it is. -/
def marks : Fragment → List Mark
  | .details d => detailsMarks d
  | .reviews list => reviewsMarks list
  | .message text => [.plain "p" (escape text), .plain "/p" ""]
  | .reservation r => [.plain "p" (reservationText r), .plain "/p" ""]
  | .popular p => popularMarks p
  | .verbatim _ => []

/-- Whether the fragment is made of texts and numbers, not handed over as markup. -/
def isComposed : Fragment → Bool
  | .verbatim _ => false
  | _ => true

theorem toList_term (name value : String) :
    (term name value).toList = Mark.render (termMarks name value) := by
  unfold term
  simp [termMarks]

theorem toList_detailsHtml (d : RestaurantDetails) :
    (detailsHtml d).toList = Mark.render (detailsMarks d) := by
  have hextra := Mark.toList_join_map
    (f := fun m : String × Json => term (escape m.1) (escape (shown m.2)))
    (fun m => toList_term (escape m.1) (escape (shown m.2))) d.extra
  unfold detailsHtml
  simp [detailsMarks, toList_term, hextra]

theorem toList_reviewHtml (r : Review) :
    (reviewHtml r).toList = Mark.render (reviewMarks r) := by
  unfold reviewHtml
  simp [reviewMarks]

theorem toList_reviewsHtml (list : ReviewList) :
    (reviewsHtml list).toList = Mark.render (reviewsMarks list) := by
  unfold reviewsHtml reviewsMarks
  split
  · simp
  · have hitems := Mark.toList_join_map toList_reviewHtml list.reviews
    simp [hitems]

theorem toList_popularHtml (p : PopularRestaurants) :
    (popularHtml p).toList = Mark.render (popularMarks p) := by
  have hitems := Mark.toList_join_map (f := fun name => "<li>" ++ escape name ++ "</li>")
    (g := fun name => [.plain "li" (escape name), .plain "/li" ""]) (by intro name; simp)
    p.topRestaurants
  unfold popularHtml
  simp [popularMarks, hitems]

theorem toList_html {f : Fragment} (h : f.isComposed) : f.html.toList = Mark.render f.marks := by
  cases f with
  | details d => exact toList_detailsHtml d
  | reviews list => exact toList_reviewsHtml list
  | message text =>
    unfold html messageHtml
    simp [marks]
  | reservation r =>
    unfold html reservationHtml marks reservationText
    simp
  | popular p => exact toList_popularHtml p
  | verbatim html => cases h

end Fragment

def Region.marks (r : Region) (id : RegionId) : List Mark :=
  match r.content with
  | .empty => [⟨⟨"div", [("id", some id.name)]⟩, ""⟩, .plain "/div" ""]
  | .rendered f => ⟨⟨"div", [("id", some id.name)]⟩, ""⟩ :: f.marks ++ [.plain "/div" ""]
  | .failed message =>
    [⟨⟨"div", [("id", some id.name), ("class", some "error")]⟩, ""⟩,
      .plain "p" (escape message), .plain "/p" "", .plain "/div" ""]

/-- Whether what is shown is made of texts and numbers. -/
def Content.isComposed : Content → Bool
  | .rendered f => f.isComposed
  | _ => true

theorem Region.toList_html {r : Region} (h : r.content.isComposed) (id : RegionId) :
    (r.html id).toList = Mark.render (r.marks id) := by
  rcases r with ⟨_ | f | message, writes⟩
  all_goals unfold Region.html Region.marks
  · simp
  · simp [Fragment.toList_html h]
  · simp

def Field.input (f : Field) : Tag :=
  ⟨"input", [("type", some "text"), ("id", some f.id), ("name", some f.control.name),
    ("value", some (escape f.value))]⟩

def Field.marks (f : Field) : List Mark :=
  [⟨⟨"label", [("for", some f.id)]⟩, f.label⟩, .plain "/label" "", ⟨f.input, ""⟩]

theorem Field.toList_html (f : Field) : f.html.toList = Mark.render f.marks := by
  unfold Field.html
  simp [Field.marks, Field.input]

def FormLayout.marks (f : FormLayout) : List Mark :=
  ⟨⟨"form", [("id", some f.id), ("method", some "post"), ("action", some f.action)]⟩, ""⟩ ::
    f.fields.flatMap Field.marks ++
    [⟨⟨"button", [("type", some "submit")]⟩, f.button⟩, .plain "/button" "", .plain "/form" ""]

theorem FormLayout.toList_html (f : FormLayout) : f.html.toList = Mark.render f.marks := by
  have hfields := Mark.toList_join_map Field.toList_html f.fields
  unfold FormLayout.html
  simp [FormLayout.marks, hfields]

namespace Document

/-- Whether every region shows something that is made of texts and numbers. -/
def IsComposed (d : Document) : Prop :=
  ∀ id, (d.region id).content.isComposed

def marks (d : Document) (restaurant : String) : List Mark :=
  let region (id : RegionId) : List Mark := (d.region id).marks id
  [⟨⟨"!DOCTYPE", [("html", none)]⟩, ""⟩, .plain "html" "", .plain "head" "",
      ⟨⟨"meta", [("charset", some "utf-8")]⟩, ""⟩, .plain "title" (escape restaurant),
      .plain "/title" "", .plain "/head" "", .plain "body" ""] ++
    region .details ++ region .reviews ++ (FormLayout.reservation restaurant).marks ++
    region .reservationMessage ++ (FormLayout.review restaurant).marks ++
    FormLayout.restaurant.marks ++ region .reservations ++ region .popular ++
    [.plain "/body" "", .plain "/html" ""]

theorem toList_page {d : Document} (h : d.IsComposed) (restaurant : String) :
    (d.page restaurant).toList = Mark.render (d.marks restaurant) := by
  have hregion : ∀ id, ((d.region id).html id).toList = Mark.render ((d.region id).marks id) :=
    fun id => Region.toList_html (h id) id
  unfold page
  simp [marks, hregion, FormLayout.toList_html]

end Document

namespace Fragment

theorem clean_termMarks {name value : String} (hname : name.toList.all isPlain)
    (hvalue : value.toList.all isPlain) : (termMarks name value).all Mark.clean := by
  simp +decide [termMarks, hname, hvalue]

theorem clean_reviewMarks (r : Review) : (reviewMarks r).all Mark.clean := by
  simp +decide [reviewMarks]

theorem clean_reviewsMarks (list : ReviewList) : (reviewsMarks list).all Mark.clean := by
  have hitems := Mark.clean_flatMap clean_reviewMarks list.reviews
  unfold reviewsMarks
  split
  · simp +decide
  · simp only [List.all_append, hitems]
    simp +decide

theorem clean_marks (f : Fragment) : f.marks.all Mark.clean := by
  cases f with
  | details d =>
    have hextra := Mark.clean_flatMap
      (g := fun m : String × Json => termMarks (escape m.1) (escape (shown m.2)))
      (fun m => clean_termMarks (plain_escape m.1) (plain_escape (shown m.2))) d.extra
    unfold marks detailsMarks
    simp only [List.all_append, hextra]
    simp +decide [clean_termMarks]
  | reviews list => exact clean_reviewsMarks list
  | message text =>
    unfold marks
    simp +decide
  | reservation r =>
    unfold marks reservationText
    simp +decide
  | popular p =>
    have hitems := Mark.clean_flatMap
      (g := fun name => [.plain "li" (escape name), .plain "/li" ""])
      (by intro name; simp +decide) p.topRestaurants
    unfold marks popularMarks
    simp only [List.all_append, hitems]
    simp +decide
  | verbatim html => rfl

end Fragment

theorem RegionId.plain_name (id : RegionId) : id.name.toList.all isPlain := by
  cases id <;> decide

theorem Region.clean_marks (r : Region) (id : RegionId) : (r.marks id).all Mark.clean := by
  have hid := id.plain_name
  rcases r with ⟨_ | f | message, writes⟩
  all_goals unfold Region.marks
  · simp +decide only [List.all_cons, List.all_nil, Mark.clean_mk, Mark.clean_plain,
      Option.all_some, hid]
  · simp +decide only [List.cons_append, List.all_cons, List.all_append, List.all_nil,
      Mark.clean_mk, Mark.clean_plain, Option.all_some, hid, f.clean_marks]
  · simp +decide only [List.all_cons, List.all_nil, Mark.clean_mk, Mark.clean_plain,
      Option.all_some, hid, plain_escape]

/-- Whether nothing that the field is given means something in markup, its value apart. -/
def Field.clean (f : Field) : Bool :=
  f.id.toList.all isPlain && f.label.toList.all isPlain

theorem Control.plain_name (c : Control) : c.name.toList.all isPlain := by
  cases c <;> decide

theorem Field.clean_marks {f : Field} (h : f.clean) : f.marks.all Mark.clean := by
  simp only [Field.clean, Bool.and_eq_true] at h
  obtain ⟨hid, hlabel⟩ := h
  unfold Field.marks Field.input
  simp +decide only [List.all_cons, List.all_nil, Mark.clean_mk, Mark.clean_plain, Option.all_some,
    hid, hlabel, f.control.plain_name, plain_escape]

def FormLayout.clean (f : FormLayout) : Bool :=
  f.id.toList.all isPlain && f.action.toList.all isPlain && f.button.toList.all isPlain &&
    f.fields.all Field.clean

theorem FormLayout.clean_marks {f : FormLayout} (h : f.clean) : f.marks.all Mark.clean := by
  simp only [FormLayout.clean, Bool.and_eq_true] at h
  obtain ⟨⟨⟨hid, haction⟩, hbutton⟩, hfields⟩ := h
  have hitems : (f.fields.flatMap Field.marks).all Mark.clean := by
    rw [List.all_flatMap, List.all_eq_true]
    exact fun field hfield => Field.clean_marks (List.all_eq_true.1 hfields field hfield)
  unfold FormLayout.marks
  simp +decide only [List.cons_append, List.all_cons, List.all_append, List.all_nil, Mark.clean_mk,
    Mark.clean_plain, Option.all_some, hid, haction, hbutton, hitems]

theorem FormLayout.clean_reservation (restaurant : String) : (reservation restaurant).clean := by
  simp +decide only [clean, reservation, Field.clean, List.all_cons, List.all_nil]

theorem FormLayout.clean_review (restaurant : String) : (review restaurant).clean := by
  simp +decide only [clean, review, Field.clean, List.all_cons, List.all_nil]

theorem FormLayout.clean_restaurant : restaurant.clean := by
  decide

theorem Document.clean_marks (d : Document) (restaurant : String) :
    (d.marks restaurant).all Mark.clean := by
  have hregion : ∀ id, ((d.region id).marks id).all Mark.clean :=
    fun id => Region.clean_marks _ id
  have hreservation := FormLayout.clean_marks (FormLayout.clean_reservation restaurant)
  have hreview := FormLayout.clean_marks (FormLayout.clean_review restaurant)
  have hrestaurant := FormLayout.clean_marks FormLayout.clean_restaurant
  unfold Document.marks
  simp +decide only [List.all_append, List.all_cons, List.all_nil, Mark.clean_mk, Mark.clean_plain,
    Option.all_none, Option.all_some, plain_escape, hregion, hreservation, hreview, hrestaurant]

end Bistro
