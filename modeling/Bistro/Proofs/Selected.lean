import Bistro.Proofs.Queries
import Bistro.Proofs.Reload
import Bistro.Proofs.Results

/-!
# The restaurant that is selected

Which restaurant is selected is a normal form of the name that was asked for, or else of the default
(`selectRestaurant_normalizes`): it is nothing, or a name that is neither blank nor padded, and it
selects itself. The pages ask the backend for such a name, and for no other one unless the address
of the backend has a query of its own (`loads_proper_names`).
-/

namespace Bistro

/-- A text that has nothing but blanks. -/
def IsBlankText (s : String) : Prop :=
  ∀ c ∈ s.toList, isBlank c

/-- A name that is neither blank nor padded. -/
structure IsProper (name : String) : Prop where
  nonempty : name ≠ ""
  front : ∀ c ∈ name.toList.head?, isBlank c = false
  back : ∀ c ∈ name.toList.getLast?, isBlank c = false

/-- The second text is the first one with blanks around it. -/
def Pads (s padded : String) : Prop :=
  ∃ before after, padded.toList = before ++ (s.toList ++ after) ∧
    (∀ c ∈ before, isBlank c) ∧ ∀ c ∈ after, isBlank c

theorem trim_eq_empty_iff {s : String} : trim s = "" ↔ IsBlankText s := by
  rw [Call.trim_eq_iff]
  constructor
  · intro h c hc
    obtain ⟨before, after, hs, hbefore, hafter⟩ := h.within
    rw [hs, String.toList_empty, List.nil_append, List.mem_append] at hc
    exact hc.elim (hbefore c) (hafter c)
  · exact fun h => ⟨⟨s.toList, [], by simp, h, nofun⟩, nofun, nofun⟩

theorem trim_of_pads {s padded : String} (h : Pads s padded) : trim padded = trim s := by
  obtain ⟨outerBefore, outerAfter, hpadded, hob, hoa⟩ := h
  have hs := Call.trim_eq_iff.1 (rfl : trim s = trim s)
  obtain ⟨before, after, hsplit, hb, ha⟩ := hs.within
  refine Call.trim_eq_iff.2
    ⟨⟨outerBefore ++ before, after ++ outerAfter, ?_, ?_, ?_⟩, hs.front, hs.back⟩
  · rw [hpadded, hsplit]
    simp only [List.append_assoc]
  · exact List.forall_mem_append.2 ⟨hob, hb⟩
  · exact List.forall_mem_append.2 ⟨ha, hoa⟩

theorem IsProper.trim_eq {name : String} (h : IsProper name) : trim name = name :=
  Call.trim_eq_iff.2 ⟨⟨[], [], by simp, nofun, nofun⟩, h.front, h.back⟩

theorem properName_eq_some_iff {s name : String} :
    properName s = some name ↔ trim s = name ∧ name ≠ "" := by
  unfold properName
  split_ifs with h
  · refine iff_of_false not_false ?_
    rintro ⟨rfl, hne⟩
    exact hne h
  · rw [Option.some.injEq]
    exact ⟨fun heq => ⟨heq, heq ▸ h⟩, And.left⟩

theorem properName_eq_none_iff {s : String} : properName s = none ↔ IsBlankText s := by
  unfold properName
  split_ifs with h <;> simp [← trim_eq_empty_iff, h]

theorem properName_of_pads {s padded : String} (h : Pads s padded) :
    properName padded = properName s := by
  rw [properName, trim_of_pads h, properName]

/-- The normal form of what is asked for, else of the default. -/
structure Normalizes (select : String → Option String → Option String) : Prop where
  none_iff : ∀ default requested, select default requested = none ↔
    (∀ name ∈ requested, IsBlankText name) ∧ IsBlankText default
  some_iff : ∀ default requested name, select default requested = some name ↔
    IsProper name ∧ ((∃ s ∈ requested, IsTrimmed s.toList name.toList) ∨
      (∀ s ∈ requested, IsBlankText s) ∧ IsTrimmed default.toList name.toList)
  idempotent : ∀ default requested,
    select default (select default requested) = select default requested
  stable : ∀ default other requested name,
    select default requested = some name → select other (some name) = some name
  padded : ∀ default default' requested requested', Pads default default' →
    Option.Rel Pads requested requested' →
    select default' requested' = select default requested

theorem selectRestaurant_eq_some_iff {default : String} {requested : Option String}
    {name : String} : selectRestaurant default requested = some name ↔
      IsProper name ∧ ((∃ s ∈ requested, IsTrimmed s.toList name.toList) ∨
        (∀ s ∈ requested, IsBlankText s) ∧ IsTrimmed default.toList name.toList) := by
  have hproper (s : String) :
      properName s = some name ↔ IsProper name ∧ IsTrimmed s.toList name.toList := by
    rw [properName_eq_some_iff, Call.trim_eq_iff]
    exact ⟨fun h => ⟨⟨h.2, h.1.front, h.1.back⟩, h.1⟩, fun h => ⟨h.2, h.1.nonempty⟩⟩
  cases requested with
  | none => simp [selectRestaurant, hproper]
  | some s =>
    rw [selectRestaurant, Option.bind_some, Option.or_eq_some_iff, hproper, hproper,
      properName_eq_none_iff, and_left_comm, ← and_or_left]
    simp

theorem selectRestaurant_of_proper (default : String) {name : String} (h : IsProper name) :
    selectRestaurant default (some name) = some name := by
  have hname : properName name = some name := properName_eq_some_iff.2 ⟨h.trim_eq, h.nonempty⟩
  rw [selectRestaurant, Option.bind_some, hname, Option.some_or]

theorem selectRestaurant_normalizes : Normalizes selectRestaurant where
  none_iff default requested := by
    simp only [selectRestaurant_eq_none, trim_eq_empty_iff]
  some_iff _ _ _ := selectRestaurant_eq_some_iff
  idempotent default requested := by
    cases h : selectRestaurant default requested with
    | some name => exact selectRestaurant_of_proper default (selectRestaurant_eq_some_iff.1 h).1
    | none =>
      have hdefault := ((selectRestaurant_eq_none default requested).1 h).2
      exact (selectRestaurant_eq_none default none).2 ⟨nofun, hdefault⟩
  stable _ other _ _ h := selectRestaurant_of_proper other (selectRestaurant_eq_some_iff.1 h).1
  padded default default' requested requested' hdefault hrequested := by
    have hbind : requested'.bind properName = requested.bind properName := by
      cases hrequested with
      | some h => exact properName_of_pads h
      | none => rfl
    rw [selectRestaurant, hbind, properName_of_pads hdefault, selectRestaurant]

/-- A request that loads the restaurant of that name: its query is that name alone, or stands behind
the query that the address of the backend has of its own. -/
structure Request.LoadsRestaurant (q : Request) (base name : String) : Prop where
  made : (Call.detail name).request? base = some q ∨ (Call.review name).request? base = some q
  pairs : ∃ own query, q.url.query = some query ∧
    Urlencoded.decode (utf8 (String.ofList query)) = own ++ [("restaurant_name", name)] ∧
    (¬ Url.HasQuery base.toList → own = [])

theorem Request.loadsRestaurant_of_made {q : Request} {base name : String}
    (h : (Call.detail name).request? base = some q ∨ (Call.review name).request? base = some q) :
    q.LoadsRestaurant base name :=
  ⟨h, h.elim Call.exists_query_of_request? Call.exists_query_of_request?⟩

namespace Service

variable {σ : Type} {service : Service} {request : Web.Request}

/-- A page on which a restaurant is loaded, if there is a page at all. -/
theorem plan_loads (service : Service)
    (hpath : request.path = "/" ∨ request.path = "/reserve" ∨ request.path = "/review") :
    (∃ response, service.plan request = .error response) ∨
      ∃ plan requested others, service.plan request = .ok plan ∧
        plan.Loads (selectRestaurant service.defaultRestaurant requested) others := by
  rcases hplan : service.plan request with response | plan
  · exact .inl ⟨response, rfl⟩
  · right
    obtain ⟨route, hroute, hcases⟩ : ∃ route : Route, request.path = route.path ∧
        (route = .home ∨ route = .reserve ∨ route = .review) := by
      rcases hpath with h | h | h
      · exact ⟨.home, h, .inl rfl⟩
      · exact ⟨.reserve, h, .inr (.inl rfl)⟩
      · exact ⟨.review, h, .inr (.inr rfl)⟩
    have hmade : route.plan service request = .ok plan := by
      unfold Service.plan at hplan
      rw [hroute, route.ofPath?_path] at hplan
      by_cases hallows : route.allows request.method
      · simpa [hallows] using hplan
      · simp [hallows] at hplan
    rcases hcases with rfl | rfl | rfl <;> simp only [Route.plan] at hmade <;> split at hmade <;>
      cases hmade
    · exact ⟨_, _, _, rfl, PagePlan.loads_home _ _⟩
    · exact ⟨_, _, _, rfl, PagePlan.loads_reserve _ _⟩
    · exact ⟨_, _, _, rfl, PagePlan.loads_review _ _⟩

theorem requests_of_refusal {response : Web.Response} (h : service.plan request = .error response)
    (backend : Backend σ) (state : σ) : service.requests backend request state = [] := by
  unfold requests respond
  rw [h]

theorem loadsRestaurant_of_get {selected : Option String} {plan : PagePlan} {others : List Fill}
    (hplan : plan.Loads selected others) {base : String} {q : Request}
    (hq : q ∈ (plan.steps.flatMap Step.fills).filterMap (Fill.request? base))
    (hget : q.method = .get) : ∃ name, selected = some name ∧ q.LoadsRestaurant base name := by
  obtain ⟨fill, hfill, hrequest⟩ := List.mem_filterMap.1 hq
  rw [hplan.fills, List.mem_append] at hfill
  rcases hfill with hfill | hfill
  · have hpost := hplan.writes fill hfill base q hrequest
    rw [hget] at hpost
    cases hpost
  · cases selected with
    | none =>
      obtain rfl := List.mem_singleton.1 hfill
      cases hrequest
    | some name =>
      simp only [PagePlan.load, Operation.step, List.mem_cons, List.not_mem_nil, or_false] at hfill
      refine ⟨name, rfl, Request.loadsRestaurant_of_made ?_⟩
      rcases hfill with rfl | rfl
      · exact .inl hrequest
      · exact .inr hrequest

end Service

/-- What is selected is a normal form, and the pages that load a restaurant add no other names to
the address of the backend. -/
theorem loads_proper_names :
    Normalizes selectRestaurant ∧
      ∀ (σ : Type) (service : Service) (backend : Backend σ) (state : σ) (request : Web.Request),
        request.path = "/" ∨ request.path = "/reserve" ∨ request.path = "/review" →
        ∀ q ∈ service.requests backend request state, q.method = .get →
          ∃ name, IsProper name ∧ q.LoadsRestaurant service.backendUrl name := by
  refine ⟨selectRestaurant_normalizes, fun σ service backend state request hpath q hq hget => ?_⟩
  rcases service.plan_loads hpath with ⟨response, hplan⟩ | ⟨plan, requested, others, hplan, hloads⟩
  · rw [Service.requests_of_refusal hplan] at hq
    cases hq
  · rw [Service.requests_eq hplan] at hq
    obtain ⟨name, hselect, hname⟩ := Service.loadsRestaurant_of_get hloads hq hget
    exact ⟨name, (selectRestaurant_eq_some_iff.1 hselect).1, hname⟩

/-- A padded default is asked for without the blanks when the name in the request is blank. -/
theorem loads_padded_default :
    let service : Service := ⟨"http://[::1]:8080", "\u2003Trattoria Roma\t"⟩
    let request := Web.Request.asking (some " \u3000")
    let q : Request :=
      ⟨.get, (loopback .getDetail).addPairs [("restaurant_name", "Trattoria Roma")]⟩
    q ∈ service.requests (offline Unit) request () ∧
      ∃ name, IsProper name ∧ q.LoadsRestaurant service.backendUrl name := by
  intro service request q
  have hasks := Web.Request.asksFor_asking (some " \u3000")
  have hselect : selectRestaurant service.defaultRestaurant (some " \u3000") =
      some "Trattoria Roma" := by
    decide +kernel
  have hq : q ∈ service.requests (offline Unit) request () := by
    rw [Service.requests_eq (Service.plan_get hasks), (PagePlan.loads_home service _).fills,
      List.nil_append, PagePlan.filterMap_load, hselect]
    refine List.mem_filterMap.2 ⟨.detail "Trattoria Roma", by simp, ?_⟩
    decide +kernel
  exact ⟨hq, loads_proper_names.2 Unit service (offline Unit) () request (.inl hasks.path) q hq rfl⟩

/-- An address with a query of its own can name a restaurant there, and that name may be blank. -/
theorem loads_blank_name_of_address :
    let service : Service :=
      ⟨"http://[::1]:8080/get-detail?restaurant_name=+&y=", "Trattoria Roma"⟩
    let query := "restaurant_name=+&y=/get-detail&restaurant_name=Trattoria+Roma"
    let q : Request := ⟨.get, { loopback .getDetail with query := some query.toList }⟩
    q ∈ service.requests (offline Unit) (Web.Request.asking none) () ∧
      q.method = .get ∧ q.url.pathText = "/get-detail" ∧
      ("restaurant_name", " ") ∈ Urlencoded.decode (utf8 query) ∧ ¬ IsProper " " := by
  intro service query q
  have hselect : selectRestaurant service.defaultRestaurant none = some "Trattoria Roma" := by
    decide +kernel
  refine ⟨?_, rfl, by decide +kernel, by decide +kernel, fun h => ?_⟩
  · rw [Service.requests_eq (Service.plan_get (Web.Request.asksFor_asking none)),
      (PagePlan.loads_home service _).fills, List.nil_append, PagePlan.filterMap_load, hselect]
    refine List.mem_filterMap.2 ⟨.detail "Trattoria Roma", by simp, ?_⟩
    decide +kernel
  · cases h.front ' ' rfl

end Bistro
