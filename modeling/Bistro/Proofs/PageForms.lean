import Bistro.Proofs.PageTags
import Bistro.Proofs.Reload
import Bistro.Proofs.Trimmed

/-!
# The forms on the page

The forms are read off the tags of the page as a browser reads them: every input has the name and
the value of a control. What is read are the controls that the requests are made of
(`Document.IsComposed.forms_page`), and no others (`Form.Reads`). So a form that was filled in and
posted asks for one write, for the restaurant that the page is titled with, and the page that
answers it is titled with it again (`Document.forms_post_what_is_typed`).
-/

namespace Bistro

variable {σ : Type}

/-- A form as it stands on a page. -/
structure PageForm where
  method : String
  action : String
  controls : Form
  deriving DecidableEq, Repr

namespace Tag

/-- The value of an attribute with its entities decoded. -/
def text (name : String) (t : Tag) : String :=
  unescape ((t.value? name).getD "")

/-- The tags of a markup, in order. -/
def readAll (html : String) : List Tag :=
  (cut html.toList).2.filterMap fun p => read p.1

/-- The inputs up to the end of the form. -/
def controls (ts : List Tag) : Form :=
  ((ts.takeWhile fun t => t.name ≠ "/form").filter fun t => t.name = "input").map fun t =>
    (t.text "name", t.text "value")

/-- The forms among the tags, in order. -/
def forms : List Tag → List PageForm
  | [] => []
  | t :: ts =>
    if t.name = "form" then ⟨t.text "method", t.text "action", controls ts⟩ :: forms ts
    else forms ts

theorem forms_append {front : List Tag} (h : ∀ t ∈ front, t.name ≠ "form") (rest : List Tag) :
    forms (front ++ rest) = forms rest := by
  induction front with
  | nil => rfl
  | cons t front ih =>
    rw [List.cons_append, forms, if_neg (h t List.mem_cons_self),
      ih fun t ht => h t (List.mem_cons_of_mem _ ht)]

end Tag

/-- The forms of a page. -/
def pageForms (html : String) : List PageForm :=
  Tag.forms (Tag.readAll html)

theorem Document.IsComposed.readAll_page {d : Document} (h : d.IsComposed) (restaurant : String) :
    Tag.readAll (d.page restaurant) = pageTags d.kinds restaurant := by
  have hcuts := h.cuts restaurant
  have hread : ∀ ts : List Tag, (∀ t ∈ ts, Tag.read t.chars = some t) →
      (ts.map Tag.chars).filterMap Tag.read = ts := by
    intro ts
    induction ts with
    | nil => exact fun _ => rfl
    | cons t ts ih =>
      intro hts
      rw [List.map_cons, List.filterMap_cons_some (hts t List.mem_cons_self),
        ih fun t ht => hts t (List.mem_cons_of_mem _ ht)]
  have htags := hread _ hcuts.read
  rw [← hcuts.written, List.filterMap_map] at htags
  exact htags

/-! ## The forms of the page -/

theorem Control.unescape_name (c : Control) : unescape c.name = c.name := by
  cases c <;> decide

namespace FormLayout

/-- The form as it is read off the page. -/
def read (f : FormLayout) : PageForm :=
  ⟨"post", f.action, f.fields.map fun field => (field.control.name, field.value)⟩

theorem controls_tags (fields : List Field) (rest : List Tag) :
    Tag.controls ((fields.flatMap Field.marks).map Mark.tag ++
        ⟨"button", [("type", some "submit")]⟩ :: ⟨"/button", []⟩ :: ⟨"/form", []⟩ :: rest) =
      fields.map fun field => (field.control.name, field.value) := by
  induction fields with
  | nil => rfl
  | cons field fields ih =>
    have hinput : (field.input.text "name", field.input.text "value") =
        (field.control.name, field.value) := by
      rw [← field.control.unescape_name, ← unescape_escape field.value]
      rfl
    rw [List.flatMap_cons, List.map_append, List.append_assoc, List.map_cons, ← ih, ← hinput]
    rfl

theorem forms_tags {f : FormLayout} (h : unescape f.action = f.action) (rest : List Tag) :
    Tag.forms (f.tags ++ rest) = f.read :: Tag.forms rest := by
  have hnone : ∀ t ∈ (f.fields.flatMap Field.marks).map Mark.tag ++
      [⟨"button", [("type", some "submit")]⟩, ⟨"/button", []⟩, ⟨"/form", []⟩],
      t.name ≠ "form" := by
    intro t ht
    simp only [List.mem_append, List.mem_map, List.mem_flatMap, Field.marks, List.mem_cons,
      List.not_mem_nil, or_false] at ht
    rcases ht with ⟨m, ⟨field, -, rfl | rfl | rfl⟩, rfl⟩ | rfl | rfl | rfl <;>
      simp [Mark.plain, Field.input]
  have htags : f.tags ++ rest =
      ⟨"form", [("id", some f.id), ("method", some "post"), ("action", some f.action)]⟩ ::
        ((f.fields.flatMap Field.marks).map Mark.tag ++
          [⟨"button", [("type", some "submit")]⟩, ⟨"/button", []⟩, ⟨"/form", []⟩] ++ rest) := by
    simp [tags, marks, Mark.plain]
  have haction : Tag.text "action"
      ⟨"form", [("id", some f.id), ("method", some "post"), ("action", some f.action)]⟩ =
        f.action := h
  have hmethod : Tag.text "method"
      ⟨"form", [("id", some f.id), ("method", some "post"), ("action", some f.action)]⟩ =
        "post" := (by decide : unescape "post" = "post")
  rw [htags, Tag.forms, if_pos rfl, Tag.forms_append hnone, List.append_assoc, List.cons_append,
    List.cons_append, List.cons_append, List.nil_append, controls_tags, haction,
    hmethod, read]

end FormLayout

theorem Kind.name_ne_form (id : RegionId) (k : Kind) : ∀ t ∈ k.tags id, t.name ≠ "form" := by
  have hitems : ∀ {front items back : List String} (count : Nat), (∀ name ∈ front, name ≠ "form") →
      (∀ name ∈ items, name ≠ "form") → (∀ name ∈ back, name ≠ "form") →
      ∀ name ∈ front ++ (List.replicate count items).flatten ++ back, name ≠ "form" := by
    intro front items back count hfront hitems hback
    refine List.forall_mem_append.2 ⟨List.forall_mem_append.2 ⟨hfront, fun name hname => ?_⟩, hback⟩
    obtain ⟨l, hl, hname⟩ := List.mem_flatten.1 hname
    exact hitems name (List.eq_of_mem_replicate hl ▸ hname)
  have hnames : ∀ name ∈ k.names, name ≠ "form" := by
    cases k with
    | details extras => exact hitems (extras + 3) (by decide) (by decide) (by decide)
    | popular count => exact hitems count (by decide) (by decide) (by decide)
    | reviews count =>
      cases count with
      | zero => decide
      | succ count => exact hitems (count + 1) (by decide) (by decide) (by decide)
    | _ => decide
  intro t ht
  rcases List.mem_cons.1 ht with rfl | ht
  · exact (by decide : "div" ≠ "form")
  · obtain ⟨name, hname, rfl⟩ := List.mem_map.1 ht
    rcases List.mem_append.1 hname with hname | hname
    · exact hnames name hname
    · obtain rfl := List.mem_singleton.1 hname
      exact (by decide : "/div" ≠ "form")

theorem forms_pageTags (kinds : RegionId → Kind) (restaurant : String) :
    Tag.forms (pageTags kinds restaurant) =
      [(FormLayout.reservation restaurant).read, (FormLayout.review restaurant).read,
        FormLayout.restaurant.read] := by
  have hregion : ∀ id rest, Tag.forms ((kinds id).tags id ++ rest) = Tag.forms rest := fun id =>
    Tag.forms_append ((kinds id).name_ne_form id)
  have hreserve : unescape (FormLayout.reservation restaurant).action = "/reserve" :=
    (by decide : unescape "/reserve" = "/reserve")
  have hreview : unescape (FormLayout.review restaurant).action = "/review" :=
    (by decide : unescape "/review" = "/review")
  unfold pageTags
  simp only [List.append_assoc]
  rw [Tag.forms_append (by decide), hregion, hregion, FormLayout.forms_tags hreserve, hregion,
    FormLayout.forms_tags hreview, FormLayout.forms_tags (by decide), hregion, hregion]
  rfl

namespace Form

/-- What is made of a form reads these controls: it depends on their values and on no others, and
on each of them. -/
structure Reads {α : Type} (make : Form → α) (controls : List Control) : Prop where
  only : ∀ form form' : Form, (∀ c ∈ controls, form.value c = form'.value c) →
    make form = make form'
  each : ∀ c ∈ controls, ∃ form form' : Form,
    (∀ c', c' ≠ c → form.value c' = form'.value c') ∧ make form ≠ make form'

def reservationControls : List Control :=
  [.userName, .restaurantName, .year, .month, .day]

def reviewControls : List Control :=
  [.userName, .restaurantName, .review, .rating]

def restaurantControls : List Control :=
  [.restaurantName, .location, .style, .capacity]

theorem value_concat (form : Form) (c c' : Control) (text : String) :
    value (form ++ [(c.name, text)]) c' = if c' = c then text else form.value c' := by
  have hname : c.name = c'.name ↔ c' = c := by
    cases c <;> cases c' <;> decide
  simp only [value, List.reverse_append, List.reverse_singleton, List.singleton_append,
    List.find?_cons, hname]
  by_cases h : c' = c <;> simp [h]

/-- What changes with a text in each of the controls reads each of them. -/
theorem reads_of_ne {α : Type} {make : Form → α} {controls : List Control}
    (only : ∀ form form' : Form, (∀ c ∈ controls, form.value c = form'.value c) →
      make form = make form')
    (form : Form) (text : String)
    (h : ∀ c ∈ controls, make form ≠ make (form ++ [(c.name, text)])) :
    Reads make controls := by
  refine ⟨only, fun c hc => ⟨form, _, fun c' hc' => ?_, h c hc⟩⟩
  rw [value_concat, if_neg hc']

theorem reads_reservation : Reads reservation reservationControls := by
  refine reads_of_ne (fun form form' h => ?_) [] "x" (by decide)
  simp only [reservationControls, List.forall_mem_cons] at h
  obtain ⟨huser, hrestaurant, hyear, hmonth, hday, -⟩ := h
  simp only [reservation, huser, hrestaurant, hyear, hmonth, hday]

theorem reads_review : Reads review reviewControls := by
  refine reads_of_ne (fun form form' h => ?_) [("rating", "4")] "x" (by decide +kernel)
  simp only [reviewControls, List.forall_mem_cons] at h
  obtain ⟨huser, hrestaurant, hreview, hrating, -⟩ := h
  simp only [review, number, huser, hrestaurant, hreview, hrating]

theorem reads_restaurant : Reads restaurant restaurantControls := by
  refine reads_of_ne (fun form form' h => ?_) [("capacity", "4")] "x" (by decide +kernel)
  simp only [restaurantControls, List.forall_mem_cons] at h
  obtain ⟨hrestaurant, hlocation, hstyle, hcapacity, -⟩ := h
  simp only [restaurant, number, hrestaurant, hlocation, hstyle, hcapacity]

/-! ## Filling forms in -/

/-- The controls of a form before anything is typed: empty, but for the name of the restaurant. -/
def prefilled (restaurant : String) (controls : List Control) : Form :=
  controls.map fun c => (c.name, if c = .restaurantName then restaurant else "")

/-- The form with these texts in its controls, where the name of the restaurant stays. -/
def filled (form : Form) (texts : String → String) : Form :=
  form.map fun m => if m.1 = Control.restaurantName.name then m else (m.1, texts m.1)

theorem filled_prefilled (restaurant : String) (controls : List Control) (texts : String → String) :
    (prefilled restaurant controls).filled texts =
      controls.map fun c => (c.name, if c = .restaurantName then restaurant else texts c.name) := by
  rw [filled, prefilled, List.map_map]
  refine List.map_congr_left fun c _ => ?_
  cases c <;> rfl

theorem value_map {controls : List Control} (texts : Control → String) {c : Control}
    (hc : c ∈ controls) : value (controls.map fun c => (c.name, texts c)) c = texts c := by
  induction controls using List.reverseRecOn with
  | nil => cases hc
  | append_singleton controls last ih =>
    rw [List.map_append, List.map_singleton, value_concat]
    split_ifs with h
    · rw [h]
    · refine ih ?_
      simpa [h] using hc

theorem value_filled {restaurant : String} {controls : List Control} {texts : String → String}
    {c : Control} (hc : c ∈ controls) :
    ((prefilled restaurant controls).filled texts).value c =
      if c = .restaurantName then restaurant else texts c.name := by
  rw [filled_prefilled,
    value_map (fun c => if c = .restaurantName then restaurant else texts c.name) hc]

theorem reservation_filled (restaurant : String) (texts : String → String) :
    ((prefilled restaurant reservationControls).filled texts).reservation =
      ⟨texts "user-name", restaurant, texts "year", texts "month", texts "day"⟩ := by
  rw [reservation, value_filled (by decide), value_filled (by decide), value_filled (by decide),
    value_filled (by decide), value_filled (by decide)]
  rfl

theorem review_filled (restaurant : String) (texts : String → String) {rating : Int32}
    (h : readInt32 (trimChars (texts "rating").toList) = .ok rating) :
    ((prefilled restaurant reviewControls).filled texts).review =
      .ok ⟨texts "user-name", restaurant, texts "review", rating⟩ := by
  have hrating : ((prefilled restaurant reviewControls).filled texts).value .rating =
      texts "rating" := value_filled (by decide)
  rw [review, value_filled (by decide), value_filled (by decide), value_filled (by decide), number,
    hrating, h]
  rfl

theorem nodup_prefilled (restaurant : String) {controls : List Control}
    (h : (controls.map Control.name).Nodup) :
    ((prefilled restaurant controls).map Prod.fst).Nodup := by
  rwa [prefilled, List.map_map]

end Form

theorem Document.IsComposed.forms_page {d : Document} (h : d.IsComposed) (restaurant : String) :
    pageForms (d.page restaurant) =
      [⟨"post", "/reserve", Form.prefilled restaurant Form.reservationControls⟩,
        ⟨"post", "/review", Form.prefilled restaurant Form.reviewControls⟩,
        ⟨"post", "/restaurant", Form.prefilled "" Form.restaurantControls⟩] := by
  rw [pageForms, h.readAll_page, forms_pageTags]
  rfl

theorem properName_trim (name : String) : properName (trim name) = properName name := by
  have htrim : trim (trim name) = trim name := by
    rw [trim, trim, String.toList_ofList, trimChars_trimChars]
  rw [properName, htrim, properName]

/-- The restaurant that is selected selects itself. -/
theorem selectRestaurant_selected (default : String) (requested : Option String) :
    selectRestaurant default (some ((selectRestaurant default requested).getD "")) =
      selectRestaurant default requested := by
  have hname : ∀ name : Option String, name.bind properName = none ∨
      ∃ s, name.bind properName = some s ∧ properName s = some s := by
    rintro (_ | name)
    · exact .inl rfl
    · rw [Option.bind_some, properName]
      split_ifs with h
      · exact .inl rfl
      · refine .inr ⟨_, rfl, ?_⟩
        rw [properName_trim, properName, if_neg h]
  rcases hname requested with hnone | ⟨s, hs, hproper⟩
  · rcases hname (some default) with hdefault | ⟨s, hs, hproper⟩
    · rw [Option.bind_some] at hdefault
      simp only [selectRestaurant, hnone, hdefault]
      rfl
    · rw [Option.bind_some] at hs
      simp [selectRestaurant, hnone, hs, hproper]
  · simp [selectRestaurant, hs, hproper]

theorem Task.filterMap_loading (base : String) (selected : Option String) :
    (Task.loading selected).filterMap (Task.request? base) =
      PagePlan.loadRequests base selected := by
  rw [← PagePlan.filterMap_load, Task.fills_load, List.filterMap_map]
  exact List.filterMap_congr fun task _ => (task.request?_fill base).symm

namespace Service

variable {service : Service} {request : Web.Request}

/-- A request has one write, whose parameters are the pairs, and loads the restaurant of that name.
If the name is one that was selected before, the page loads the same restaurant again and is titled
with it. -/
structure WritesFor (service : Service) (backend : Backend σ) (request : Web.Request) (state : σ)
    (restaurant : String) (write : Call) (pairs : List (String × String)) : Prop where
  asked : service.requests backend request state =
    (write.request? service.backendUrl).toList ++ PagePlan.loadRequests service.backendUrl
      (selectRestaurant service.defaultRestaurant (some restaurant))
  posts : ∀ url, Reaches service.backendUrl write.endpoint url →
    PostsOnce write.endpoint url pairs (service.requests backend request state)
  reloads : ∀ requested,
    restaurant = (selectRestaurant service.defaultRestaurant requested).getD "" →
    ∃ stages d, stages.flatten = .ask .reservationMessage (.ok write) ::
        Task.loading (selectRestaurant service.defaultRestaurant requested) ∧
      service.Answers backend request state restaurant stages d

theorem posts_loadRequests (base : String) (selected : Option String) :
    posts (PagePlan.loadRequests base selected) = [] := by
  rw [← PagePlan.filterMap_load]
  refine List.filter_eq_nil_iff.2 fun q hq => ?_
  obtain ⟨fill, hfill, hrequest⟩ := List.mem_filterMap.1 hq
  simp [PagePlan.method_of_load fill hfill _ q hrequest]

theorem writesFor_of_makes {route : Route} {stages : List (List Task)} {restaurant : String}
    {write : Call} (hpath : request.path = route.path) (hmethod : route.allows request.method)
    (h : route.Makes service request
      ((selectRestaurant service.defaultRestaurant (some restaurant)).getD "") stages)
    (hstages : stages.flatten = .ask .reservationMessage (.ok write) ::
      Task.loading (selectRestaurant service.defaultRestaurant (some restaurant)))
    (hwrite : write.method = .post) (backend : Backend σ) (state : σ) :
    service.WritesFor backend request state restaurant write write.pairs := by
  obtain ⟨d, hd⟩ := exists_answers hpath hmethod h backend state
  have hasked : service.requests backend request state =
      (write.request? service.backendUrl).toList ++ PagePlan.loadRequests service.backendUrl
        (selectRestaurant service.defaultRestaurant (some restaurant)) := by
    rw [hd.asked, hstages, List.filterMap_cons, Task.filterMap_loading]
    simp only [Task.request?, Except.toOption, Option.bind_some]
    generalize PagePlan.loadRequests service.backendUrl _ = loads
    cases write.request? service.backendUrl <;> rfl
  refine ⟨hasked, fun url hreach => Call.postsOnce hreach hwrite ?_, fun requested hname => ?_⟩
  · have happend : ∀ qs, posts (qs ++ PagePlan.loadRequests service.backendUrl
        (selectRestaurant service.defaultRestaurant (some restaurant))) = posts qs := by
      intro qs
      rw [posts, List.filter_append, ← posts, ← posts, posts_loadRequests, List.append_nil]
    rw [hasked, happend]
    cases hq : write.request? service.backendUrl with
    | none => rfl
    | some q => exact posts_cons ((Call.method_of_request? hq).trans hwrite) []
  · have hselect := selectRestaurant_selected service.defaultRestaurant requested
    rw [← hname] at hselect
    rw [hselect] at hstages hd
    exact ⟨stages, d, hstages, hname ▸ hd⟩

section Filled

variable {restaurant : String} {texts : String → String}

theorem writesFor_reservation (hpath : request.path = "/reserve")
    (h : request.Submits ((Form.prefilled restaurant Form.reservationControls).filled texts))
    (backend : Backend σ) (state : σ) :
    service.WritesFor backend request state restaurant
      (.reserve ⟨texts "user-name", restaurant, texts "year", texts "month", texts "day"⟩)
      [("user_name", texts "user-name"), ("restaurant_name", restaurant),
        ("year", texts "year"), ("month", texts "month"), ("day", texts "day")] := by
  have hroute : request.path = Route.reserve.path := hpath
  have hname : ((Form.prefilled restaurant Form.reservationControls).filled texts).value
      .restaurantName = restaurant := Form.value_filled (by decide)
  have hmakes : Route.reserve.Makes service request _ _ := .reserve _ h.form_eq _ rfl
  rw [hname, Form.reservation_filled] at hmakes
  exact writesFor_of_makes hroute (by rw [h.method]; rfl) hmakes (by simp) rfl backend state

theorem writesFor_review (hpath : request.path = "/review")
    (h : request.Submits ((Form.prefilled restaurant Form.reviewControls).filled texts))
    {rating : Int32} (hrating : readInt32 (trimChars (texts "rating").toList) = .ok rating)
    (backend : Backend σ) (state : σ) :
    service.WritesFor backend request state restaurant
      (.postReview ⟨texts "user-name", restaurant, texts "review", rating⟩)
      [("user_name", texts "user-name"), ("restaurant_name", restaurant),
        ("review", texts "review"), ("rating", Decimal.write rating.toInt)] := by
  have hroute : request.path = Route.review.path := hpath
  have hname : ((Form.prefilled restaurant Form.reviewControls).filled texts).value
      .restaurantName = restaurant := Form.value_filled (by decide)
  have hmakes : Route.review.Makes service request _ _ := .review _ h.form_eq _ rfl
  rw [hname, Form.review_filled restaurant texts hrating] at hmakes
  exact writesFor_of_makes hroute (by rw [h.method]; rfl) hmakes (by simp [Except.map]) rfl backend
    state

end Filled

end Service

/-- The forms on the page and the requests that are made of them agree, and what is typed is sent.
On every page of a document that only operations have written to, each form has the controls that
its request reads, once each, empty but for the name of the restaurant. If texts are typed into one
of the first two and it is posted, there is one write, for the restaurant of the page and with these
texts, unless its address would be too long; and the page that answers it is for the same restaurant
again, if that was selected. -/
theorem Document.forms_post_what_is_typed {d : Document} (hd : d.Operated) (restaurant : String) :
    pageForms (d.page restaurant) =
        [⟨"post", "/reserve", Form.prefilled restaurant Form.reservationControls⟩,
          ⟨"post", "/review", Form.prefilled restaurant Form.reviewControls⟩,
          ⟨"post", "/restaurant", Form.prefilled "" Form.restaurantControls⟩] ∧
      (Form.Reads Form.reservation Form.reservationControls ∧
        Form.Reads Form.review Form.reviewControls ∧
        Form.Reads Form.restaurant Form.restaurantControls) ∧
      (∀ form ∈ pageForms (d.page restaurant), (form.controls.map Prod.fst).Nodup) ∧
      ∀ form ∈ pageForms (d.page restaurant), ∀ (σ : Type) (service : Service)
        (backend : Backend σ) (state : σ) (request : Web.Request) (texts : String → String),
        request.path = form.action → request.Submits (form.controls.filled texts) →
        (form.action = "/reserve" →
          service.WritesFor backend request state restaurant
            (.reserve ⟨texts "user-name", restaurant, texts "year", texts "month", texts "day"⟩)
            [("user_name", texts "user-name"), ("restaurant_name", restaurant),
              ("year", texts "year"), ("month", texts "month"), ("day", texts "day")]) ∧
        (form.action = "/review" → ∀ rating,
          readInt32 (trimChars (texts "rating").toList) = .ok rating →
          service.WritesFor backend request state restaurant
            (.postReview ⟨texts "user-name", restaurant, texts "review", rating⟩)
            [("user_name", texts "user-name"), ("restaurant_name", restaurant),
              ("review", texts "review"), ("rating", Decimal.write rating.toInt)]) := by
  have hforms := hd.isComposed.forms_page restaurant
  refine ⟨hforms, ⟨Form.reads_reservation, Form.reads_review, Form.reads_restaurant⟩, ?_, ?_⟩
  · simp only [hforms, List.forall_mem_cons]
    exact ⟨Form.nodup_prefilled _ (by decide), Form.nodup_prefilled _ (by decide),
      Form.nodup_prefilled _ (by decide), List.forall_mem_nil _⟩
  · intro form hform σ service backend state request texts hpath hsubmits
    simp only [hforms, List.mem_cons, List.not_mem_nil, or_false] at hform
    rcases hform with rfl | rfl | rfl
    · exact ⟨fun _ => Service.writesFor_reservation hpath hsubmits backend state,
        fun h => absurd h (by decide : "/reserve" ≠ "/review")⟩
    · exact ⟨fun h => absurd h (by decide : "/review" ≠ "/reserve"),
        fun _ rating hrating => Service.writesFor_review hpath hsubmits hrating backend state⟩
    · exact ⟨fun h => absurd h (by decide : "/restaurant" ≠ "/reserve"),
        fun h => absurd h (by decide : "/restaurant" ≠ "/review")⟩

/-- A name that needs every entity but one, and texts that try to be parameters. -/
theorem Document.forms_post_at_loopback :
    let d := ((Visit.start ()).perform (offline Unit) "" (.loadReviews .reviews "Roma")).document
    let name := "\"Roma\" & <Bar>"
    let texts (control : String) : String :=
      if control = "rating" then " +04 " else "a&b=" ++ control
    let service : Service := ⟨"http://[::1]:8080", name⟩
    let form (controls : List Control) : Form := (Form.prefilled name controls).filled texts
    let reserve : Web.Request := .posting "/reserve" (form Form.reservationControls)
    let review : Web.Request := .posting "/review" (form Form.reviewControls)
    d.Operated ∧ reserve.Submits (form Form.reservationControls) ∧
      review.Submits (form Form.reviewControls) ∧
      name = (selectRestaurant service.defaultRestaurant none).getD "" ∧
      service.WritesFor (offline Unit) reserve () name
        (.reserve ⟨"a&b=user-name", name, "a&b=year", "a&b=month", "a&b=day"⟩)
        [("user_name", "a&b=user-name"), ("restaurant_name", name), ("year", "a&b=year"),
          ("month", "a&b=month"), ("day", "a&b=day")] ∧
      service.WritesFor (offline Unit) review () name
        (.postReview ⟨"a&b=user-name", name, "a&b=review", 4⟩)
        [("user_name", "a&b=user-name"), ("restaurant_name", name), ("review", "a&b=review"),
          ("rating", "4")] := by
  intro d name texts service form reserve review
  have hd : d.Operated := .perform _ _ _ _ .fresh
  have hreserve : reserve.Submits (form Form.reservationControls) :=
    Web.Request.submits_posting _ (by decide +kernel)
  have hreview : review.Submits (form Form.reviewControls) :=
    Web.Request.submits_posting _ (by decide +kernel)
  have htext : texts "rating" = " +04 " := if_pos rfl
  have hrating : readInt32 (trimChars (texts "rating").toList) = .ok 4 := by
    rw [htext]
    rfl
  obtain ⟨hforms, -, -, hwrites⟩ := Document.forms_post_what_is_typed hd name
  refine ⟨hd, hreserve, hreview, by decide +kernel, ?_, ?_⟩
  · exact (hwrites ⟨"post", "/reserve", _⟩ (by rw [hforms]; exact List.mem_cons_self) Unit service
      (offline Unit) () reserve texts (by decide +kernel) hreserve).1 rfl
  · refine (hwrites ⟨"post", "/review", _⟩ ?_ Unit service (offline Unit) () review texts
      (by decide +kernel) hreview).2 rfl 4 hrating
    rw [hforms]
    exact List.mem_cons_of_mem _ List.mem_cons_self

/-- The size of a form behind a name of `n` letters. -/
theorem length_utf8_encode_cons (n : Nat) (p : String × String) (form : Form) :
    (utf8 (String.ofList (Urlencoded.encode
      (("user-name", String.ofList (List.replicate n 'a')) :: p :: form)))).length =
        n + 11 + (utf8 (String.ofList (Urlencoded.encode (p :: form)))).length := by
  have hname := length_utf8_encode n
  rw [utf8_ofList, Urlencoded.encode, List.map_singleton, List.intercalate_singleton] at hname
  have hencode : ∀ q : String × String, Urlencoded.encode (q :: p :: form) =
      Urlencoded.encodePair q ++ ['&'] ++ Urlencoded.encode (p :: form) := fun _ =>
    List.intercalate_cons_cons
  rw [hencode, utf8_ofList, utf8_ofList, charBytes_append, charBytes_append, List.length_append,
    List.length_append, hname]
  have hsep : (charBytes ['&']).length = 1 := rfl
  omega

/-- A form that is too long is refused. -/
theorem form_posting_of_long (path : String) {form : Form}
    (h : Web.maxFormSize < (utf8 (String.ofList (Urlencoded.encode form))).length) :
    (Web.Request.posting path form).form = .error .tooLong := by
  obtain ⟨type, hheader, htype⟩ := (Web.Request.submits_posting path (by decide : (utf8
    (String.ofList (Urlencoded.encode []))).length ≤ Web.maxFormSize)).type
  have hheader' : (Web.Request.posting path form).header? "content-type" = some type := hheader
  rw [Web.Request.form, hheader']
  exact (if_pos htype).trans (if_pos h)

theorem Document.forms_do_not_post_long_names :
    let d : Document := .fresh
    let texts (n : Nat) (control : String) : String :=
      if control = "user-name" then String.ofList (List.replicate n 'a') else ""
    let service : Service := ⟨"http://[::1]:8080", ""⟩
    let form (n : Nat) : Form := (Form.prefilled "" Form.reservationControls).filled (texts n)
    let request (n : Nat) : Web.Request := .posting "/reserve" (form n)
    d.Operated ∧
      ⟨"post", "/reserve", Form.prefilled "" Form.reservationControls⟩ ∈ pageForms (d.page "") ∧
      ((request 70000).Submits (form 70000) ∧ (request 70000).path = "/reserve" ∧
        Reaches service.backendUrl .makeReservation (loopback .makeReservation) ∧
        ∀ (σ : Type) (backend : Backend σ) (state : σ),
          posts (service.requests backend (request 70000) state) = []) ∧
      ((request 2097152).method = "POST" ∧ (request 2097152).path = "/reserve" ∧
        (request 2097152).body = utf8 (String.ofList (Urlencoded.encode (form 2097152))) ∧
        ∀ (σ : Type) (backend : Backend σ) (state : σ),
          service.requests backend (request 2097152) state = []) := by
  intro d texts service form request
  have hpath (n : Nat) : (request n).path = "/reserve" := Web.Request.path_posting (form n)
  have hsize (n : Nat) : (utf8 (String.ofList (Urlencoded.encode (form n)))).length = n + 45 := by
    have hrest : (utf8 (String.ofList (Urlencoded.encode [("restaurant-name", ""), ("year", ""),
        ("month", ""), ("day", "")]))).length = 34 := by
      decide +kernel
    have hform : form n = [("user-name", String.ofList (List.replicate n 'a')),
        ("restaurant-name", ""), ("year", ""), ("month", ""), ("day", "")] := rfl
    rw [hform, length_utf8_encode_cons, hrest]
  have hreach : Reaches service.backendUrl .makeReservation (loopback .makeReservation) :=
    reaches_loopback _
  have hmem : (⟨"post", "/reserve", Form.prefilled "" Form.reservationControls⟩ : PageForm) ∈
      pageForms (d.page "") := by
    rw [Document.Operated.fresh.isComposed.forms_page]
    exact List.mem_cons_self
  have hsubmits (n : Nat) (hn : n + 45 ≤ Web.maxFormSize) : (request n).Submits (form n) :=
    Web.Request.submits_posting _ (by rwa [hsize])
  have hunsent (n : Nat) (hn : n + 45 ≤ Web.maxFormSize) (hlong : Url.maxUri < n) (σ : Type)
      (backend : Backend σ) (state : σ) :
      posts (service.requests backend (request n) state) = [] := by
    have hwrites : service.WritesFor backend (request n) state "" _ _ :=
      Service.writesFor_reservation (hpath n) (hsubmits n hn) backend state
    refine (hwrites.posts _ hreach).posts_of_long hreach List.mem_cons_self ?_
    have htext : texts n "user-name" = String.ofList (List.replicate n 'a') := if_pos rfl
    rwa [htext, Urlencoded.encodeText_replicate, List.length_replicate]
  have hrefused (n : Nat) (hlong : Web.maxFormSize < n + 45) (σ : Type) (backend : Backend σ)
      (state : σ) : service.requests backend (request n) state = [] := by
    have hplan : service.plan (request n) = .error Web.FormFault.tooLong.response := by
      have hroute : (request n).path = Route.reserve.path := hpath n
      rw [Service.plan_of_route hroute rfl, Route.plan,
        form_posting_of_long "/reserve" (by rwa [hsize])]
    unfold Service.requests Service.respond
    rw [hplan]
  have hposted (n : Nat) : (request n).method = "POST" ∧
      (request n).body = utf8 (String.ofList (Urlencoded.encode (form n))) := ⟨rfl, rfl⟩
  exact ⟨.fresh, hmem, ⟨hsubmits 70000 (by decide), hpath 70000, hreach,
    hunsent 70000 (by decide) (by decide)⟩, (hposted 2097152).1, hpath 2097152,
    (hposted 2097152).2, hrefused 2097152 (by decide)⟩

end Bistro
