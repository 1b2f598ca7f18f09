import Bistro.Proofs.Queries
import Bistro.Proofs.WriteFirst
import Bistro.Service.Site

/-!
# What posted forms send

A posted form makes one request that posts, and it is the one of the call that its route makes of it
(`Site.posts_requests`). Its query is read as the parameters of the call, whatever characters they
are made of, unless they make its address longer than a URI may be (`Call.postsOnce`).
-/

namespace Bistro

/-- The value that counts for a control: that of the last one of its name, or nothing if there is
none. -/
def Form.Holds (form : Form) (control : Control) (value : String) : Prop :=
  IsLast form control.name value ∨ control.name ∉ form.map Prod.fst ∧ value = ""

theorem Form.value_of_holds {form : Form} {control : Control} {value : String}
    (h : form.Holds control value) : form.value control = value := by
  have hnone : ∀ later : Form, control.name ∉ later.map Prod.fst →
      later.reverse.find? (fun m => m.1 = control.name) = none := fun later hlater =>
    List.find?_eq_none.2 fun m hm hname =>
      hlater (List.mem_map.2 ⟨m, List.mem_reverse.1 hm, of_decide_eq_true hname⟩)
  rcases h with ⟨before, later, rfl, hlater⟩ | ⟨habsent, rfl⟩
  · simp only [Form.value, List.reverse_append, List.reverse_cons, List.append_assoc,
      List.find?_append, hnone later hlater]
    simp
  · rw [Form.value, hnone form habsent]

/-- A request that posts a form, which is encoded as forms are and not too long. -/
structure Web.Request.Submits (request : Web.Request) (form : Form) : Prop where
  method : request.method = "POST"
  type : ∃ type, request.header? "content-type" = some type ∧ Web.isFormType type
  body : request.body = utf8 (String.ofList (Urlencoded.encode form))
  size : request.body.length ≤ Web.maxFormSize

theorem Web.Request.Submits.form_eq {request : Web.Request} {form : Form}
    (h : request.Submits form) : request.form = .ok form := by
  obtain ⟨type, hheader, htype⟩ := h.type
  rw [Web.Request.form, hheader]
  simp only
  rw [if_pos htype, if_neg (Nat.not_lt.2 h.size), h.body, Urlencoded.decode_encode]

/-- An address without a query or a fragment, where an endpoint can be asked. -/
structure Reaches (base : String) (e : Endpoint) (url : Url) : Prop where
  origin : ∃ origin, Url.parse base = .ok origin
  query : '?' ∉ base.toList
  fragment : '#' ∉ base.toList
  asked : Request.make .post (endpointUrl base e.path) [] = .ok ⟨.post, url⟩

theorem Reaches.query_and_path {base : String} {e : Endpoint} {url : Url} (h : Reaches base e url) :
    url.query = none ∧ ∃ dir, url.pathText = dir ++ e.path := by
  obtain ⟨origin, horigin⟩ := h.origin
  obtain ⟨parsed, hparsed, -, heq, hscheme, -⟩ := Request.make_eq_ok h.asked
  obtain ⟨dir, hdir⟩ := Url.parse_endpointUrl horigin h.query h.fragment hparsed hscheme
  have hquery : parsed.query = none := by
    refine Url.query_endpointUrl (fun hbase => ?_) hparsed hscheme
    exact h.query (List.takeWhile_subset _ hbase)
  have hpath : e.path = String.ofList ('/' :: e.name) := by
    cases e <;> rfl
  cases heq
  refine ⟨hquery, String.ofList (dir.flatMap ('/' :: ·)), ?_⟩
  rw [hpath, ← String.ofList_append, Url.pathText]
  simp [Url.withoutUser, hdir, Url.pathChars]

theorem Reaches.query_addPairs {base : String} {e : Endpoint} {url : Url} (h : Reaches base e url)
    (pairs : List (String × String)) :
    (url.addPairs pairs).query = some (Urlencoded.encode pairs) := by
  rw [Url.addPairs, h.query_and_path.1]

def posts (requests : List Request) : List Request :=
  requests.filter fun r => r.method = .post

theorem posts_cons {r : Request} (h : r.method = .post) (requests : List Request) :
    posts (r :: requests) = r :: posts requests :=
  List.filter_cons_of_pos (by simpa using h)

/-- Of the requests, one posts: it is for an endpoint, and its query is read as the pairs. If this
made its address too long, none does. -/
structure PostsOnce (e : Endpoint) (url : Url) (pairs : List (String × String))
    (requests : List Request) : Prop where
  path : ∃ dir, url.pathText = dir ++ e.path
  query : ∃ query, (url.addPairs pairs).query = some query ∧
    Urlencoded.decode (utf8 (String.ofList query)) = pairs
  posts : posts requests =
    if (url.addPairs pairs).write.utf8ByteSize ≤ Url.maxUri then [⟨.post, url.addPairs pairs⟩]
    else []

namespace Call

theorem postsOnce {base : String} {url : Url} {c : Call} {requests : List Request}
    (hreach : Reaches base c.endpoint url) (hmethod : c.method = .post)
    (hposts : posts requests = (c.request? base).toList) :
    PostsOnce c.endpoint url c.pairs requests where
  path := hreach.query_and_path.2
  query := ⟨_, hreach.query_addPairs c.pairs, Urlencoded.decode_encode c.pairs⟩
  posts := by
    rw [hposts, Call.request?, Call.request, hmethod,
      Request.make_addPairs hreach.asked c.pairs_ne_nil]
    split_ifs <;> rfl

end Call

/-- Nothing is posted if one of the values is longer than an address may be. -/
theorem PostsOnce.posts_of_long {base : String} {e : Endpoint} {url : Url}
    {pairs : List (String × String)} {requests : List Request}
    (h : PostsOnce e url pairs requests) (hreach : Reaches base e url) {p : String × String}
    (hp : p ∈ pairs) (hlong : Url.maxUri < (Urlencoded.encodeText p.2).length) :
    Bistro.posts requests = [] := by
  have hwrite := Url.length_query_le (hreach.query_addPairs pairs)
  have hvalue := Urlencoded.length_value_le hp
  rw [h.posts, if_neg (by omega)]

/-! ## The pages after forms -/

/-- What a route asks with a form that is posted to it. -/
def Route.call (form : Form) : Route → Except Trouble Call
  | .reserve => .ok (.reserve form.reservation)
  | .review => form.review.map .postReview
  | _ => form.restaurant.map .postDetail

theorem Route.method_of_call {form : Form} {r : Route} {c : Call} (h : r.call form = .ok c) :
    c.method = .post := by
  have hmap : ∀ {α : Type} {read : Except Trouble α} {f : α → Call}, read.map f = .ok c →
      (∀ a, (f a).method = .post) → c.method = .post := by
    rintro α (_ | a) f h hf <;> cases h
    exact hf a
  cases r with
  | reserve => cases h; rfl
  | _ => exact hmap h fun _ => rfl

theorem PagePlan.method_of_load {selected : Option String} :
    ∀ fill ∈ (load selected).fills, ∀ base q, fill.request? base = some q → q.method = .get := by
  intro fill hfill base q hq
  cases selected with
  | none =>
    obtain rfl := List.mem_singleton.1 hfill
    cases hq
  | some name =>
    simp only [load, Operation.step, List.mem_cons, List.not_mem_nil, or_false] at hfill
    rcases hfill with rfl | rfl <;> exact Call.method_of_request? hq

/-- The page of a form asks for what was posted, and beside it only for what it shows. -/
theorem Route.fills_of_form (service : Service) {request : Web.Request} {form : Form}
    (hform : request.form = .ok form) {r : Route} (hr : r.takesForm = true) :
    ∃ plan others, r.plan service request = .ok plan ∧
      plan.steps.flatMap Step.fills = Operation.submit .reservationMessage (r.call form) :: others ∧
      ∀ fill ∈ others, ∀ base q, fill.request? base = some q → q.method = .get := by
  cases r with
  | reserve =>
    refine ⟨.reserve service form, (PagePlan.load (PagePlan.selectedBy service form)).fills,
      by simp [Route.plan, hform], ?_, PagePlan.method_of_load⟩
    simp [PagePlan.reserve, PagePlan.together, Operation.step, Route.call, Operation.submit]
  | review =>
    exact ⟨.review service form, _, by simp [Route.plan, hform], PagePlan.fills_review service form,
      PagePlan.method_of_load⟩
  | restaurant =>
    exact ⟨.restaurant form, [], by simp [Route.plan, hform],
      by simp [PagePlan.restaurant, Operation.step, Route.call], List.forall_mem_nil _⟩
  | _ => cases hr

theorem Route.ofPath?_path (r : Route) : Route.ofPath? r.path = some r := by
  cases r <;> rfl

theorem Service.plan_of_route {service : Service} {request : Web.Request} {route : Route}
    (hpath : request.path = route.path) (hmethod : route.allows request.method) :
    service.plan request = route.plan service request := by
  unfold Service.plan
  rw [hpath, route.ofPath?_path]
  exact if_pos hmethod

variable {σ : Type}

theorem PagePlan.requests_run (plan : PagePlan) (backend : Backend σ) (base : String) (state : σ) :
    (plan.run backend.recorded base (state, [])).state.2 =
      (plan.steps.flatMap Step.fills).filterMap (Fill.request? base) := by
  rw [PagePlan.run_recorded, List.filterMap_flatMap]
  rfl

namespace Site

variable {site : Site} {request : Web.Request} {form : Form}

/-- The requests that are made for a request, in order. -/
def requests (site : Site) (backend : Backend σ) (request : Web.Request) (state : σ) :
    List Request :=
  (site.respond backend.recorded request (state, [])).state.2

theorem requests_eq {plan : PagePlan} (h : site.plan request = .ok plan) (backend : Backend σ)
    (state : σ) :
    site.requests backend request state =
      (plan.steps.flatMap Step.fills).filterMap (Fill.request? site.service.backendUrl) := by
  unfold requests respond
  rw [h]
  exact plan.requests_run backend _ state

/-- A posted form makes at most one request that posts: the one that its route asks for. -/
theorem posts_requests (h : request.Submits form) {r : Route} (hr : r.takesForm = true)
    (hpath : request.path = r.path) (backend : Backend σ) (state : σ) :
    posts (site.requests backend request state) =
      ((r.call form).toOption.bind (Call.request? site.service.backendUrl)).toList := by
  obtain ⟨plan, others, hplan, hfills, hothers⟩ :=
    Route.fills_of_form site.service h.form_eq hr
  have hallows : r.allows request.method := by
    rw [Route.allows, if_pos hr, h.method]
    rfl
  have hsite : site.plan request = .ok plan := by
    unfold Site.plan
    rw [hpath, r.ofPath?_path, Service.plan_of_route hpath hallows, hplan]
    exact if_neg (by rw [h.method]; decide)
  have hnone : posts (others.filterMap (Fill.request? site.service.backendUrl)) = [] :=
    List.filter_eq_nil_iff.2 fun q hq => by
      obtain ⟨fill, hfill, hrequest⟩ := List.mem_filterMap.1 hq
      simp [hothers fill hfill _ q hrequest]
  rw [requests_eq hsite, hfills, List.filterMap_cons, Operation.request?_submit]
  cases hcall : r.call form with
  | error t => exact hnone
  | ok c =>
    simp only [Except.toOption, Option.bind_some]
    cases hq : c.request? site.service.backendUrl with
    | none => exact hnone
    | some q =>
      have hpost : q.method = .post :=
        (Call.method_of_request? hq).trans (Route.method_of_call hcall)
      exact (posts_cons hpost _).trans (congrArg (q :: ·) hnone)

theorem postsOnce (h : request.Submits form) {r : Route} (hr : r.takesForm = true)
    (hpath : request.path = r.path) {c : Call} (hcall : r.call form = .ok c) {url : Url}
    (hreach : Reaches site.service.backendUrl c.endpoint url) (backend : Backend σ) (state : σ) :
    PostsOnce c.endpoint url c.pairs (site.requests backend request state) := by
  refine Call.postsOnce hreach (Route.method_of_call hcall) ?_
  simp only [posts_requests h hr hpath, hcall, Except.toOption, Option.bind_some]

end Site

/-- The address of an endpoint on this machine. -/
def loopback (e : Endpoint) : Url :=
  ⟨"http", some ⟨[], .ipv6 [0, 0, 0, 0, 0, 0, 0, 1], some 8080⟩, .segments [e.name], none, none⟩

theorem reaches_loopback (e : Endpoint) : Reaches "http://[::1]:8080" e (loopback e) where
  origin := ⟨_, rfl⟩
  query := by decide
  fragment := by decide
  asked := by cases e <;> rfl

def Web.Request.posting (path : String) (form : Form) : Web.Request :=
  ⟨"POST", path, [("content-type", Web.formType)],
    utf8 (String.ofList (Urlencoded.encode form))⟩

/-- The form does not matter for where it is posted. -/
theorem Web.Request.path_posting_eq (path : String) (form : Form) :
    (posting path form).path = (⟨"POST", path, [], []⟩ : Web.Request).path :=
  rfl

theorem Web.Request.path_posting (form : Form) : (posting "/reserve" form).path = "/reserve" :=
  (path_posting_eq "/reserve" form).trans (by decide +kernel)

theorem Web.Request.submits_posting (path : String) {form : Form}
    (h : (utf8 (String.ofList (Urlencoded.encode form))).length ≤ Web.maxFormSize) :
    (posting path form).Submits form := by
  have hheader : ([("content-type", formType)].find? fun h => h.1.toLower = "content-type").map
      (·.2) = some formType := by
    decide +kernel
  exact ⟨rfl, ⟨formType, hheader, by decide +kernel⟩, rfl, h⟩

/-- The values of a posted form reach the backend as they are, whatever characters they are made of:
one request posts, and its query is read as the values, or as the decimals of the numbers, under
the names of the parameters, and as nothing else. An address that would be too long with them is not
asked at all. -/
theorem Site.posts_verbatim {σ : Type} (site : Site) (backend : Backend σ) (state : σ)
    {request : Web.Request} {form : Form} (h : request.Submits form) (url : Url) :
    (request.path = "/reserve" → Reaches site.service.backendUrl .makeReservation url →
      ∀ u r y m d, form.Holds .userName u → form.Holds .restaurantName r → form.Holds .year y →
        form.Holds .month m → form.Holds .day d →
        PostsOnce .makeReservation url
          [("user_name", u), ("restaurant_name", r), ("year", y), ("month", m), ("day", d)]
          (site.requests backend request state)) ∧
    (request.path = "/review" → Reaches site.service.backendUrl .postReview url →
      ∀ u r t rating n, form.Holds .userName u → form.Holds .restaurantName r →
        form.Holds .review t → form.Holds .rating rating →
        readInt32 (trimChars rating.toList) = .ok n →
        PostsOnce .postReview url
          [("user_name", u), ("restaurant_name", r), ("review", t),
            ("rating", Decimal.write n.toInt)]
          (site.requests backend request state)) ∧
    (request.path = "/restaurant" → Reaches site.service.backendUrl .postDetail url →
      ∀ r l s capacity n, form.Holds .restaurantName r → form.Holds .location l →
        form.Holds .style s → form.Holds .capacity capacity →
        readInt32 (trimChars capacity.toList) = .ok n →
        PostsOnce .postDetail url
          [("restaurant_name", r), ("location", l), ("style", s),
            ("capacity", Decimal.write n.toInt)]
          (site.requests backend request state)) := by
  refine ⟨fun hpath hreach u r y m d hu hr hy hm hd => ?_,
    fun hpath hreach u r t rating n hu hr ht hrating hn => ?_,
    fun hpath hreach r l s capacity n hr hl hs hcapacity hn => ?_⟩
  · rw [← Form.value_of_holds hu, ← Form.value_of_holds hr, ← Form.value_of_holds hy,
      ← Form.value_of_holds hm, ← Form.value_of_holds hd]
    exact postsOnce (r := .reserve) h rfl hpath (c := .reserve form.reservation) rfl hreach
      backend state
  · rw [← Form.value_of_holds hu, ← Form.value_of_holds hr, ← Form.value_of_holds ht]
    rw [← Form.value_of_holds hrating] at hn
    refine postsOnce (r := .review) h rfl hpath (c := .postReview ⟨_, _, _, n⟩) ?_ hreach
      backend state
    simp only [Route.call, Form.review, Form.number, hn]
    rfl
  · rw [← Form.value_of_holds hr, ← Form.value_of_holds hl, ← Form.value_of_holds hs]
    rw [← Form.value_of_holds hcapacity] at hn
    refine postsOnce (r := .restaurant) h rfl hpath (c := .postDetail ⟨_, _, _, n⟩) ?_ hreach
      backend state
    simp only [Route.call, Form.restaurant, Form.number, hn]
    rfl

theorem Site.posts_verbatim_at_loopback :
    let site : Site := ⟨⟨"http://[::1]:8080", ""⟩, []⟩
    let form : Form := [("user-name", "Ann"), ("restaurant-name", "A&B=C+%"), ("rating", " +04 "),
      ("month", "&day=1"), ("user-name", "Zoë 100%"), ("year", "2024"), ("capacity", "-0")]
    let request (path : String) : Web.Request := .posting path form
    (∀ path, (request path).Submits form) ∧ (∀ e, Reaches site.service.backendUrl e (loopback e)) ∧
      form.Holds .userName "Zoë 100%" ∧ form.Holds .day "" ∧
      PostsOnce .makeReservation (loopback .makeReservation)
        [("user_name", "Zoë 100%"), ("restaurant_name", "A&B=C+%"), ("year", "2024"),
          ("month", "&day=1"), ("day", "")]
        (site.requests (offline Unit) (request "/reserve") ()) ∧
      PostsOnce .postReview (loopback .postReview)
        [("user_name", "Zoë 100%"), ("restaurant_name", "A&B=C+%"), ("review", ""),
          ("rating", "4")]
        (site.requests (offline Unit) (request "/review") ()) ∧
      PostsOnce .postDetail (loopback .postDetail)
        [("restaurant_name", "A&B=C+%"), ("location", ""), ("style", ""), ("capacity", "0")]
        (site.requests (offline Unit) (request "/restaurant") ()) := by
  intro site form request
  have hsubmits (path : String) : (request path).Submits form :=
    Web.Request.submits_posting path (by decide +kernel)
  have hposts := fun path e =>
    Site.posts_verbatim site (offline Unit) () (hsubmits path) (loopback e)
  have huser : form.Holds .userName "Zoë 100%" :=
    .inl ⟨form.take 4, form.drop 5, rfl, by decide⟩
  have hrestaurant : form.Holds .restaurantName "A&B=C+%" :=
    .inl ⟨form.take 1, form.drop 2, rfl, by decide⟩
  have hday : form.Holds .day "" := .inr ⟨by decide, rfl⟩
  refine ⟨hsubmits, reaches_loopback, huser, hday, ?_, ?_, ?_⟩
  · exact (hposts "/reserve" .makeReservation).1 (by decide +kernel) (reaches_loopback _)
      _ _ _ _ _ huser hrestaurant (.inl ⟨form.take 5, form.drop 6, rfl, by decide⟩)
      (.inl ⟨form.take 3, form.drop 4, rfl, by decide⟩) hday
  · exact (hposts "/review" .postReview).2.1 (by decide +kernel) (reaches_loopback _)
      _ _ _ " +04 " 4 huser hrestaurant (.inr ⟨by decide, rfl⟩)
      (.inl ⟨form.take 2, form.drop 3, rfl, by decide⟩) rfl
  · exact (hposts "/restaurant" .postDetail).2.2 (by decide +kernel) (reaches_loopback _)
      _ _ _ "-0" 0 hrestaurant (.inr ⟨by decide, rfl⟩) (.inr ⟨by decide, rfl⟩)
      (.inl ⟨form.take 6, [], rfl, by decide⟩) rfl

theorem length_utf8_encode (n : Nat) :
    (utf8 (String.ofList (Urlencoded.encode
      [("user-name", String.ofList (List.replicate n 'a'))]))).length = n + 10 := by
  have hname : (charBytes (Urlencoded.encodeText "user-name")).length = 9 := by
    decide +kernel
  have hbytes : (charBytes (List.replicate n 'a')).length = n := by
    induction n with
    | zero => rfl
    | succ n ih =>
      rw [List.replicate_succ, charBytes_cons, List.length_append, ih, Nat.add_comm]
      rfl
  rw [utf8_ofList, Urlencoded.encode, List.map_singleton, List.intercalate_singleton,
    Urlencoded.charBytes_encodePair, Urlencoded.encodeText_replicate, List.length_append, hname,
    List.length_cons, hbytes]
  omega

theorem Site.posts_nothing_of_long_name :
    let site : Site := ⟨⟨"http://[::1]:8080", ""⟩, []⟩
    let name := String.ofList (List.replicate 70000 'a')
    let form : Form := [("user-name", name)]
    let request : Web.Request := .posting "/reserve" form
    let anchored : Site := ⟨⟨"http://[::1]:8080/#top", ""⟩, []⟩
    let short : Web.Request := .posting "/reserve" [("user-name", "Ann")]
    (request.path = "/reserve" ∧ request.Submits form ∧ form.Holds .userName name ∧
      Reaches site.service.backendUrl .makeReservation (loopback .makeReservation) ∧
      ∀ (σ : Type) (backend : Backend σ) (state : σ),
        posts (site.requests backend request state) = []) ∧
    ((∃ origin, Url.parse anchored.service.backendUrl = .ok origin) ∧
      '?' ∉ anchored.service.backendUrl.toList ∧
      short.path = "/reserve" ∧ short.Submits [("user-name", "Ann")] ∧
      ∀ (σ : Type) (backend : Backend σ) (state : σ),
        ∃ r, posts (anchored.requests backend short state) = [r] ∧ r.url.pathText = "/") := by
  intro site name form request anchored short
  have hpath : request.path = "/reserve" := Web.Request.path_posting form
  have hrequest : request.Submits form := Web.Request.submits_posting _ (by
    rw [length_utf8_encode]
    decide)
  have hholds : form.Holds .userName name := .inl ⟨[], [], rfl, by simp⟩
  have hreach : Reaches site.service.backendUrl .makeReservation (loopback .makeReservation) :=
    reaches_loopback _
  have hanchored : ∃ origin, Url.parse "http://[::1]:8080/#top" = .ok origin := ⟨_, rfl⟩
  have hshort : short.Submits [("user-name", "Ann")] :=
    Web.Request.submits_posting _ (by decide +kernel)
  refine ⟨⟨hpath, hrequest, hholds, hreach, fun σ backend state => ?_⟩, hanchored, by decide,
    Web.Request.path_posting _, hshort, fun σ backend state => ?_⟩
  · have honce := Site.postsOnce hrequest (r := .reserve) rfl hpath
      (c := .reserve form.reservation) rfl hreach backend state
    refine honce.posts_of_long hreach (p := ("user_name", form.value .userName))
      List.mem_cons_self ?_
    rw [Form.value_of_holds hholds, Urlencoded.encodeText_replicate, List.length_replicate]
    decide
  · have hcall : (Route.call [("user-name", "Ann")] .reserve).toOption.bind
        (Call.request? "http://[::1]:8080/#top") = some ⟨.post,
          ⟨"http", some ⟨[], .ipv6 [0, 0, 0, 0, 0, 0, 0, 1], some 8080⟩, .segments [[]],
            some "user_name=Ann&restaurant_name=&year=&month=&day=".toList,
            some "top/make-reservation".toList⟩⟩ := by
      decide +kernel
    rw [Site.posts_requests hshort (r := .reserve) rfl (Web.Request.path_posting _), hcall]
    exact ⟨_, rfl, rfl⟩

end Bistro
