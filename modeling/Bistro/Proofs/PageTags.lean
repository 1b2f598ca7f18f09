import Bistro.Proofs.PageMarkup
import Bistro.Proofs.Run

/-!
# The tags of the page

Which tags stand on the page is decided by the kinds of its regions and the number of items in them,
and by the name of the restaurant in two values (`tags_marks`). Operations never hand markup over as
it is (`Operated.isComposed`), so no text from the backend, a form or an address can add, remove or
change a tag (`tags_of_kinds`).
-/

namespace Bistro

variable {σ : Type}

/-- What of a region decides on its tags: the kind of what it shows, and how many items. -/
inductive Kind where
  | empty
  | details (extras : Nat)
  | reviews (count : Nat)
  | message
  | reservation
  | popular (count : Nat)
  | verbatim
  | failed
  deriving DecidableEq, Repr

def Fragment.kind : Fragment → Kind
  | .details d => .details d.extra.length
  | .reviews list => .reviews list.reviews.length
  | .message _ => .message
  | .reservation _ => .reservation
  | .popular p => .popular p.topRestaurants.length
  | .verbatim _ => .verbatim

def Content.kind : Content → Kind
  | .empty => .empty
  | .rendered f => f.kind
  | .failed _ => .failed

def plainTags (names : List String) : List Tag :=
  names.map fun name => ⟨name, []⟩

theorem plainTags_append (names names' : List String) :
    plainTags (names ++ names') = plainTags names ++ plainTags names' :=
  List.map_append

namespace Kind

/-- The names of the tags within the element of a region. -/
def names : Kind → List String
  | .empty | .verbatim => []
  | .details extras =>
    ["h2", "/h2", "dl"] ++ (List.replicate (extras + 3) ["dt", "/dt", "dd", "/dd"]).flatten ++
      ["/dl"]
  | .reviews 0 | .message | .reservation | .failed => ["p", "/p"]
  | .reviews count =>
    ["ul"] ++ (List.replicate count ["li", "strong", "/strong", "/li"]).flatten ++ ["/ul"]
  | .popular count => ["ol"] ++ (List.replicate count ["li", "/li"]).flatten ++ ["/ol"]

/-- The tags of a region. -/
def tags (id : RegionId) (k : Kind) : List Tag :=
  ⟨"div", ("id", some id.name) :: if k = .failed then [("class", some "error")] else []⟩ ::
    plainTags (k.names ++ ["/div"])

end Kind

/-- Items that all have the same tags. -/
theorem Mark.tags_flatMap {α : Type} {g : α → List Mark} {names : List String}
    (h : ∀ a, (g a).map tag = plainTags names) (items : List α) :
    (items.flatMap g).map tag = plainTags (List.replicate items.length names).flatten := by
  induction items with
  | nil => rfl
  | cons a items ih =>
    rw [List.flatMap_cons, List.map_append, h, ih, List.length_cons, List.replicate_succ,
      List.flatten_cons, plainTags_append]

theorem Fragment.tags_termMarks (name value : String) :
    (termMarks name value).map Mark.tag = plainTags ["dt", "/dt", "dd", "/dd"] :=
  rfl

theorem Fragment.tags_reviewMarks (r : Review) :
    (reviewMarks r).map Mark.tag = plainTags ["li", "strong", "/strong", "/li"] :=
  rfl

theorem Fragment.tags_popularMark (name : String) :
    [Mark.plain "li" (escape name), .plain "/li" ""].map Mark.tag = plainTags ["li", "/li"] :=
  rfl

theorem Fragment.tags_detailsMarks (d : RestaurantDetails) :
    (detailsMarks d).map Mark.tag = plainTags (Kind.details d.extra.length).names := by
  have hextra := Mark.tags_flatMap
    (fun m : String × Json => tags_termMarks (escape m.1) (escape (shown m.2))) d.extra
  unfold detailsMarks
  simp only [List.map_append, hextra, tags_termMarks]
  show _ = plainTags (["h2", "/h2", "dl"] ++
    (List.replicate (d.extra.length + 3) ["dt", "/dt", "dd", "/dd"]).flatten ++ ["/dl"])
  simp only [List.replicate_succ, List.flatten_cons, plainTags_append, List.append_assoc]
  rfl

theorem Fragment.tags_reviewsMarks (list : ReviewList) :
    (reviewsMarks list).map Mark.tag = plainTags (Kind.reviews list.reviews.length).names := by
  rcases list with ⟨_ | ⟨r, rest⟩⟩
  · rfl
  · have hitems := Mark.tags_flatMap tags_reviewMarks (r :: rest)
    show ([Mark.plain "ul" ""] ++ (r :: rest).flatMap reviewMarks ++
      [Mark.plain "/ul" ""]).map Mark.tag = _
    rw [List.map_append, List.map_append, hitems]
    show _ = plainTags (["ul"] ++ (List.replicate (r :: rest).length
      ["li", "strong", "/strong", "/li"]).flatten ++ ["/ul"])
    rw [plainTags_append, plainTags_append]
    rfl

theorem Fragment.tags_popularMarks (p : PopularRestaurants) :
    (popularMarks p).map Mark.tag = plainTags (Kind.popular p.topRestaurants.length).names := by
  have hitems := Mark.tags_flatMap tags_popularMark p.topRestaurants
  unfold popularMarks Kind.names
  rw [List.map_append, List.map_append, hitems, plainTags_append, plainTags_append]
  rfl

theorem Fragment.tags_marks (f : Fragment) : f.marks.map Mark.tag = plainTags f.kind.names := by
  cases f with
  | details d => exact tags_detailsMarks d
  | reviews list => exact tags_reviewsMarks list
  | message text => rfl
  | reservation r => rfl
  | popular p => exact tags_popularMarks p
  | verbatim html => rfl

theorem Region.tags_marks (r : Region) (id : RegionId) :
    (r.marks id).map Mark.tag = r.content.kind.tags id := by
  rcases r with ⟨_ | f | message, writes⟩
  · rfl
  · have hclass : f.kind ≠ .failed := by cases f <;> simp [Fragment.kind]
    unfold Region.marks Content.kind Kind.tags
    simp only [List.cons_append, List.map_cons, List.map_append, f.tags_marks, if_neg hclass,
      plainTags_append]
    rfl
  · rfl

def FormLayout.tags (f : FormLayout) : List Tag :=
  f.marks.map Mark.tag

/-- The tags of the page, by the kinds of its regions and the name of the restaurant. -/
def pageTags (kinds : RegionId → Kind) (restaurant : String) : List Tag :=
  let region (id : RegionId) : List Tag := (kinds id).tags id
  [⟨"!DOCTYPE", [("html", none)]⟩, ⟨"html", []⟩, ⟨"head", []⟩,
      ⟨"meta", [("charset", some "utf-8")]⟩, ⟨"title", []⟩, ⟨"/title", []⟩, ⟨"/head", []⟩,
      ⟨"body", []⟩] ++
    region .details ++ region .reviews ++ (FormLayout.reservation restaurant).tags ++
    region .reservationMessage ++ (FormLayout.review restaurant).tags ++
    FormLayout.restaurant.tags ++ region .reservations ++ region .popular ++
    [⟨"/body", []⟩, ⟨"/html", []⟩]

def Document.kinds (d : Document) (id : RegionId) : Kind :=
  (d.region id).content.kind

theorem Document.tags_marks (d : Document) (restaurant : String) :
    (d.marks restaurant).map Mark.tag = pageTags d.kinds restaurant := by
  unfold Document.marks pageTags
  simp only [List.map_append, Region.tags_marks]
  rfl

def elementIds : List String :=
  ["restaurant-details", "reviews", "reservation-form", "user-name", "restaurant-name", "year",
    "month", "day", "reservation-message", "review-form", "review-user-name",
    "review-restaurant-name", "review-text", "review-rating", "restaurant-form",
    "new-restaurant-name", "new-location", "new-style", "new-capacity", "reservations", "popular"]

theorem nodup_elementIds : elementIds.Nodup := by
  decide

namespace Tag

def id? (t : Tag) : Option String :=
  t.value? "id"

def holdsName (t : Tag) : Bool :=
  t.id? == some "restaurant-name" || t.id? == some "review-restaurant-name"

/-- The tag with an empty value, if it holds the name of the restaurant. -/
def blank (t : Tag) : Tag :=
  if t.holdsName then
    { t with attributes := t.attributes.map fun a =>
        if a.1 = "value" then ("value", some "") else a }
  else t

end Tag

theorem ids_plainTags (names : List String) : (plainTags names).filterMap Tag.id? = [] := by
  rw [plainTags, List.filterMap_map, List.filterMap_eq_nil_iff]
  intro name _
  rfl

theorem Kind.ids_tags (id : RegionId) (k : Kind) : (k.tags id).filterMap Tag.id? = [id.name] := by
  rw [tags, List.filterMap_cons, ids_plainTags]
  rfl

theorem FormLayout.ids_tags (f : FormLayout) :
    f.tags.filterMap Tag.id? = f.id :: f.fields.map Field.id := by
  have hfields : ∀ fields : List Field,
      ((fields.flatMap Field.marks).map Mark.tag).filterMap Tag.id? = fields.map Field.id := by
    intro fields
    induction fields with
    | nil => rfl
    | cons field rest ih =>
      rw [List.flatMap_cons, List.map_append, List.filterMap_append, ih]
      rfl
  unfold tags marks
  rw [List.cons_append, List.map_cons, List.map_append, List.filterMap_cons,
    List.filterMap_append, hfields]
  show f.id :: (f.fields.map Field.id ++ []) = _
  rw [List.append_nil]

theorem ids_pageTags (kinds : RegionId → Kind) (restaurant : String) :
    (pageTags kinds restaurant).filterMap Tag.id? = elementIds := by
  unfold pageTags
  simp only [List.filterMap_append, Kind.ids_tags, FormLayout.ids_tags]
  rfl

theorem FormLayout.filter_reservation (restaurant : String) :
    (reservation restaurant).tags.filter Tag.holdsName =
      [Field.input ⟨"restaurant-name", .restaurantName, "Restaurant", restaurant⟩] := by
  rfl

theorem FormLayout.filter_review (restaurant : String) :
    (review restaurant).tags.filter Tag.holdsName =
      [Field.input ⟨"review-restaurant-name", .restaurantName, "Restaurant", restaurant⟩] := by
  rfl

theorem Kind.holdsName_tags (id : RegionId) (k : Kind) : ∀ t ∈ k.tags id, t.holdsName = false := by
  intro t ht
  simp only [tags, List.mem_cons] at ht
  rcases ht with rfl | ht
  · cases id <;> rfl
  · obtain ⟨name, -, rfl⟩ := List.mem_map.1 ht
    rfl

/-- Only two inputs hold the name of the restaurant, with nothing else in their values. -/
theorem filter_pageTags (kinds : RegionId → Kind) (restaurant : String) :
    (pageTags kinds restaurant).filter Tag.holdsName =
      [Field.input ⟨"restaurant-name", .restaurantName, "Restaurant", restaurant⟩,
        Field.input ⟨"review-restaurant-name", .restaurantName, "Restaurant", restaurant⟩] := by
  have hregion : ∀ id, ((kinds id).tags id).filter Tag.holdsName = [] := by
    intro id
    rw [List.filter_eq_nil_iff]
    intro t ht
    simp [Kind.holdsName_tags id _ t ht]
  unfold pageTags
  simp only [List.filter_append, hregion, FormLayout.filter_reservation, FormLayout.filter_review]
  rfl

/-- Whatever the name is, the tags are the same once it is blanked. -/
theorem blank_pageTags (kinds : RegionId → Kind) (restaurant restaurant' : String) :
    (pageTags kinds restaurant).map Tag.blank = (pageTags kinds restaurant').map Tag.blank := by
  unfold pageTags
  simp only [List.map_append]
  rfl

/-- A document that only operations have written to, each of them with a backend of its own. -/
inductive Document.Operated : Document → Prop
  | fresh : Operated .fresh
  | perform {σ : Type} (backend : Backend σ) (base : String) (op : Operation) (v : Visit σ) :
    Operated v.document → Operated (v.perform backend base op).document

theorem Call.isComposed_content (c : Call) (outcome : Outcome) :
    (c.content outcome).isComposed := by
  unfold content
  split
  · cases c <;> rfl
  · rfl

theorem Operation.isComposed_written (base : String) (outcomes : Nat → Outcome) (op : Operation)
    (r : RegionId) : (op.written base outcomes r).isComposed := by
  unfold written
  split
  · exact Call.isComposed_content _ _
  · rfl

/-- No operation hands markup over as it is. -/
theorem Document.Operated.isComposed {d : Document} (h : d.Operated) : d.IsComposed := by
  induction h with
  | fresh =>
    intro id
    rw [Document.region_fresh]
    rfl
  | perform backend base op v _ ih =>
    intro id
    rw [Visit.region_perform]
    split
    · exact Operation.isComposed_written _ _ _ _
    · exact ih id

theorem Visit.kinds_perform_of_refused (backend : Backend σ) (base : String) {op : Operation}
    (h : op.refused) (v : Visit σ) (id : RegionId) :
    (v.perform backend base op).document.kinds id =
      if id ∈ op.targets then .failed else v.document.kinds id := by
  unfold Document.kinds
  rw [region_perform]
  split
  · obtain ⟨text, htext⟩ := op.written_of_refused h base
      (backend.exchange v.progress.state (op.requests base)).1 id
    simp only [Region.write, written, htext]
    rfl
  · rfl

/-- What is promised of the page: it begins with a tag, these tags stand on it in order, and each is
read back, every value up to its own closing quote. No value has a quote or a bracket in it, and no
text a bracket. The name of the restaurant is the whole value of two inputs, and the ids are
constants, none of which comes twice. -/
structure Document.Cuts (d : Document) (restaurant : String) (ts : List Tag) : Prop where
  front : (cut (d.page restaurant).toList).1 = []
  written : (cut (d.page restaurant).toList).2.map (·.1) = ts.map Tag.chars
  read : ∀ t ∈ ts, Tag.read t.chars = some t
  clean : ∀ t ∈ ts, t.clean
  texts : ∀ p ∈ (cut (d.page restaurant).toList).2, '<' ∉ p.2 ∧ '>' ∉ p.2
  names : ts.filter Tag.holdsName =
    [Field.input ⟨"restaurant-name", .restaurantName, "Restaurant", restaurant⟩,
      Field.input ⟨"review-restaurant-name", .restaurantName, "Restaurant", restaurant⟩]
  ids : ts.filterMap Tag.id? = elementIds ∧ elementIds.Nodup

theorem Document.IsComposed.cuts {d : Document} (h : d.IsComposed) (restaurant : String) :
    d.Cuts restaurant (pageTags d.kinds restaurant) := by
  have hclean := d.clean_marks restaurant
  have hcut : cut (d.page restaurant).toList =
      ([], (d.marks restaurant).map fun m => (m.tag.chars, m.text.toList)) := by
    rw [toList_page h, Mark.cut_render _ hclean]
  have hmark : ∀ m ∈ d.marks restaurant, m.tag.clean ∧ m.text.toList.all isPlain := by
    intro m hm
    have := List.all_eq_true.1 hclean m hm
    simpa [Mark.clean] using this
  have htag : ∀ t ∈ pageTags d.kinds restaurant, t.clean := by
    intro t ht
    rw [← d.tags_marks, List.mem_map] at ht
    obtain ⟨m, hm, rfl⟩ := ht
    exact (hmark m hm).1
  refine ⟨by rw [hcut], ?_, fun t ht => Tag.read_chars (htag t ht), htag, ?_,
    filter_pageTags _ _, ids_pageTags _ _, nodup_elementIds⟩
  · rw [hcut, ← d.tags_marks, List.map_map, List.map_map]
    rfl
  · intro p hp
    rw [hcut, List.mem_map] at hp
    obtain ⟨m, hm, rfl⟩ := hp
    have htext := List.all_eq_true.1 (hmark m hm).2
    exact ⟨fun h => absurd (htext _ h) (by decide), fun h => absurd (htext _ h) (by decide)⟩

/-- No text can change the markup of the page: two documents that only operations have written to,
with regions of the same kinds, have the same tags on their pages, whatever texts are in them and
whatever the restaurants are called, once the two values that hold the name are blanked. -/
theorem Document.Operated.tags_of_kinds {d d' : Document} (hd : d.Operated) (hd' : d'.Operated)
    (hkinds : d.kinds = d'.kinds) (restaurant restaurant' : String) :
    ∃ ts ts', d.Cuts restaurant ts ∧ d'.Cuts restaurant' ts' ∧
      ts.map Tag.blank = ts'.map Tag.blank := by
  refine ⟨_, _, hd.isComposed.cuts restaurant, hd'.isComposed.cuts restaurant', ?_⟩
  rw [hkinds]
  exact blank_pageTags _ _ _

/-- Two reviews with a rating that is no number, and two names that try to be markup. -/
theorem Document.tags_of_refused_reviews :
    let rated (text : String) : Document :=
      let op : Operation := .submitReview .reviews [("rating", text)]
      ((Visit.start ()).perform (offline Unit) "" op).document
    (rated "<b>").kinds = (rated "\"").kinds ∧
      ∃ ts ts', (rated "<b>").Cuts "\"><script>" ts ∧ (rated "\"").Cuts "Cafe" ts' ∧
        ts.map Tag.blank = ts'.map Tag.blank := by
  intro rated
  have hop : ∀ text, (rated text).Operated := fun text => .perform _ _ _ _ .fresh
  have hkinds : (rated "<b>").kinds = (rated "\"").kinds := by
    funext id
    rw [Visit.kinds_perform_of_refused _ _ (by decide),
      Visit.kinds_perform_of_refused _ _ (by decide)]
    rfl
  exact ⟨hkinds, (hop "<b>").tags_of_kinds (hop "\"") hkinds _ _⟩

end Bistro
