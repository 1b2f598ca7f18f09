import Bistro.Proofs.FormEncoding
import Bistro.Proofs.Posting

/-!
# Granted origins

A start is a site unless the wildcard is among the listed origins or the port is taken
(`launch_breaks_off`). Then each answer of a page is granted to the origin of its request if one of
the segments of the list is this origin, whatever the others are (`grants_listed_origins`): those
that cannot be the value of a header are warned of and change nothing.
-/

namespace Bistro

/-- The segments of a list: the text is what commas join them to. -/
structure Segments (text : String) (pieces : List String) : Prop where
  nonempty : pieces ≠ []
  whole : ∀ piece ∈ pieces, ',' ∉ piece.toList
  joined : List.intercalate [','] (pieces.map String.toList) = text.toList

theorem Segments.originPieces_eq {text : String} {pieces : List String} (h : Segments text pieces) :
    originPieces text = pieces := by
  have hnonempty : pieces.map String.toList ≠ [] := by simpa using h.nonempty
  have hsplit := List.splitOn_intercalate ',' (List.forall_mem_map.2 h.whole) hnonempty
  rw [originPieces, ← h.joined, hsplit, List.map_map]
  exact List.map_id'' (fun piece => String.ofList_toList) pieces

theorem notMem_of_mem_splitOn (a : Char) :
    ∀ (s : List Char) {piece : List Char}, piece ∈ s.splitOn a → a ∉ piece
  | [], piece, h => by
    rw [List.splitOn_nil, List.mem_singleton] at h
    simp [h]
  | c :: s, piece, h => by
    rw [List.splitOn_cons_eq_if_modifyHead] at h
    obtain ⟨first, pieces, hpieces⟩ := List.exists_cons_of_ne_nil (List.splitOn_ne_nil a s)
    have ih := fun p (hp : p ∈ s.splitOn a) => notMem_of_mem_splitOn a s hp
    rw [hpieces] at h ih
    split_ifs at h with hc
    · rcases List.mem_cons.1 h with rfl | h
      · exact List.not_mem_nil
      · exact ih piece h
    · rcases List.mem_cons.1 h with rfl | h
      · rw [List.mem_cons, not_or]
        exact ⟨fun heq => hc (heq ▸ beq_self_eq_true c), ih first List.mem_cons_self⟩
      · exact ih piece (List.mem_cons_of_mem _ h)

theorem segments_originPieces (text : String) : Segments text (originPieces text) where
  nonempty := by simp [originPieces, List.splitOn_ne_nil]
  whole := by
    refine List.forall_mem_map.2 fun piece hpiece => ?_
    rw [String.toList_ofList]
    exact notMem_of_mem_splitOn ',' _ hpiece
  joined := by
    have hid : String.toList ∘ String.ofList = id := funext fun s => String.toList_ofList
    rw [originPieces, List.map_map, hid, List.map_id, List.intercalate_splitOn]

/-- Bytes that the value of a header may have. -/
def IsHeaderText (s : String) : Prop :=
  ∀ b ∈ utf8 s, b.toNat = 0x09 ∨ 0x20 ≤ b.toNat ∧ b.toNat ≠ 0x7F

instance : DecidablePred IsHeaderText :=
  fun s => inferInstanceAs (Decidable (∀ b ∈ utf8 s, _))

theorem isHeaderValue_iff {s : String} : isHeaderValue s ↔ IsHeaderText s := by
  rw [isHeaderValue, List.all_eq_true]
  refine forall₂_congr fun b _ => ?_
  rw [Bool.or_eq_true, Bool.and_eq_true, decide_eq_true_eq, bne_iff_ne, beq_iff_eq, or_comm]

/-- One of the segments is the origin when it is trimmed. -/
def Allows (pieces : List String) (origin : String) : Prop :=
  ∃ piece ∈ pieces, IsHeaderText (trim piece) ∧ utf8 (trim piece) = utf8 origin

theorem utf8_injective : Function.Injective utf8 :=
  Function.LeftInverse.injective Utf8.read_utf8

theorem mem_listedOrigins {text origin : String} :
    origin ∈ listedOrigins text ↔ Allows (originPieces text) origin := by
  rw [listedOrigins, List.mem_filter, List.mem_map, isHeaderValue_iff]
  constructor
  · rintro ⟨⟨piece, hpiece, rfl⟩, hvalue⟩
    exact ⟨piece, hpiece, hvalue, rfl⟩
  · rintro ⟨piece, hpiece, hvalue, hbytes⟩
    obtain rfl := utf8_injective hbytes
    exact ⟨⟨piece, hpiece, rfl⟩, hvalue⟩

theorem wildcard_mem_listedOrigins {text : String} :
    "*" ∈ listedOrigins text ↔ ∃ piece ∈ originPieces text, trim piece = "*" := by
  rw [listedOrigins, List.mem_filter, List.mem_map]
  exact and_iff_left (by decide +kernel)

/-- The values of a header. -/
def Web.Response.values (response : Web.Response) (name : String) : List String :=
  (response.headers.filter fun h => h.1 = name).map Prod.snd

/-- The response is granted to the origin of the request if this one is allowed, and to no other. -/
structure Web.Response.GrantedTo (response : Web.Response) (request : Web.Request)
    (allowed : String → Prop) : Prop where
  value : ∀ origin, origin ∈ response.values "access-control-allow-origin" ↔
    request.header? "origin" = some origin ∧ allowed origin
  once : (response.values "access-control-allow-origin").length ≤ 1

/-- Each answer of a page is granted to these origins. -/
def Site.Grants (site : Site) (allowed : String → Prop) : Prop :=
  ∀ (σ : Type) (backend : Backend σ) (state : σ) (request : Web.Request) (route : Route),
    request.path = route.path → request.method = "GET" ∨ request.method = "POST" →
    (site.respond backend request state).response.GrantedTo request allowed

namespace Web.Response

variable {request : Web.Request} {name : String}

theorem values_answering (response : Web.Response) (request : Web.Request) (name : String) :
    (response.answering request).values name = response.values name := by
  unfold answering
  split_ifs <;> rfl

/-- A response that names no origin yet. -/
def Ungranted (response : Web.Response) : Prop :=
  response.values "access-control-allow-origin" = []

theorem ungranted_html (status : Nat) (body : String) : (html status body).Ungranted := by
  simp [Ungranted, values, html]

theorem ungranted_text (status : Nat) (body : String) : (text status body).Ungranted := by
  simp [Ungranted, values, text]

end Web.Response

theorem Web.FormFault.ungranted (f : Web.FormFault) : f.response.Ungranted := by
  cases f <;> exact Web.Response.ungranted_text _ _

theorem Route.ungranted_of_plan {route : Route} {service : Service} {request : Web.Request}
    {response : Web.Response} (h : route.plan service request = .error response) :
    response.Ungranted := by
  cases route <;> simp only [Route.plan] at h
  case health =>
    cases h
    exact Web.Response.ungranted_text _ _
  all_goals
    split at h <;> cases h
    first
      | exact Web.Response.ungranted_text _ _
      | exact Web.FormFault.ungranted _

theorem Service.ungranted_of_plan {service : Service} {request : Web.Request}
    {response : Web.Response} (h : service.plan request = .error response) :
    response.Ungranted := by
  unfold Service.plan at h
  split at h
  · cases h
    rfl
  · split_ifs at h
    · exact Route.ungranted_of_plan h
    · cases h
      simp [Web.Response.Ungranted, Web.Response.values]

namespace Site

variable {σ : Type} {request : Web.Request}

/-- An answer of a page is what the layers make of a response that names no origin. -/
theorem exists_dress_of_respond (site : Site) {route : Route} (hpath : request.path = route.path)
    (hmethod : request.method ≠ "OPTIONS") (backend : Backend σ) (state : σ) :
    ∃ response, response.Ungranted ∧
      (site.respond backend request state).response = site.dress request response := by
  have hplan : site.plan request = (site.service.plan request).mapError (site.dress request) := by
    unfold Site.plan
    rw [hpath, route.ofPath?_path]
    exact if_neg hmethod
  unfold respond
  rw [hplan]
  cases h : site.service.plan request with
  | error response => exact ⟨response, Service.ungranted_of_plan h, rfl⟩
  | ok plan => exact ⟨_, Web.Response.ungranted_html _ _, rfl⟩

theorem values_dress (site : Site) (request : Web.Request) {response : Web.Response}
    (h : response.Ungranted) :
    (site.dress request response).values "access-control-allow-origin" =
      (request.header? "origin").toList.filter site.origins.contains := by
  have hcompress : (compress request (response.answering request)).values
      "access-control-allow-origin" = [] := by
    unfold compress
    split_ifs
    · rw [← h, ← Web.Response.values_answering response request]
      rfl
    · exact (Web.Response.values_answering _ _ _).trans h
  rw [Web.Response.values, List.map_eq_nil_iff] at hcompress
  simp only [Web.Response.values, dress, List.filter_append, hcompress, List.nil_append]
  unfold Origins.headers
  cases request.header? "origin" with
  | none => simp
  | some origin =>
    by_cases hlisted : origin ∈ site.origins <;> simp [hlisted]

theorem grants_of_mem {site : Site} {allowed : String → Prop}
    (h : ∀ origin, origin ∈ site.origins ↔ allowed origin) : site.Grants allowed := by
  intro σ backend state request route hpath hmethod
  have hoptions : request.method ≠ "OPTIONS" := by
    rcases hmethod with hmethod | hmethod <;> rw [hmethod] <;> decide
  obtain ⟨response, hungranted, hrespond⟩ :=
    exists_dress_of_respond site hpath hoptions backend state
  have hvalues := values_dress site request hungranted
  rw [← hrespond] at hvalues
  refine ⟨fun origin => ?_, ?_⟩
  · rw [hvalues, List.mem_filter, Option.mem_toList, List.contains_iff_mem, h]
  · rw [hvalues]
    refine (List.length_filter_le _ _).trans ?_
    cases request.header? "origin" <;> simp

end Site

/-! ## Starting -/

section Starting

variable {settings : Settings} {pieces : List String}

/-- The warning of a segment that is passed over. -/
def ignoredWarning (piece : String) : Entry :=
  .message .warn
    ("Ignoring invalid origin url " ++ piece ++ " due to: failed to parse header value")

/-- The warnings of a start, in the order of the segments. -/
def ignoredWarnings (pieces : List String) : List Entry :=
  (pieces.filter fun piece => ¬ IsHeaderText (trim piece)).map ignoredWarning

theorem Segments.warnings_eq {text : String} (h : Segments text pieces) :
    (ignoredOrigins text).map ignoredWarning = ignoredWarnings pieces := by
  rw [ignoredOrigins, h.originPieces_eq, ignoredWarnings]
  congr 2
  funext piece
  rw [Bool.eq_iff_iff, Bool.not_eq_true', ← Bool.not_eq_true, isHeaderValue_iff, decide_eq_true_eq]

theorem ignoredWarning_mem_iff {piece : String} :
    ignoredWarning piece ∈ ignoredWarnings pieces ↔
      piece ∈ pieces ∧ ¬ IsHeaderText (trim piece) := by
  have hinjective : Function.Injective ignoredWarning := by
    intro a b hab
    rw [ignoredWarning, ignoredWarning, Entry.message.injEq] at hab
    exact String.append_right_inj _ |>.1 (String.append_left_inj _ |>.1 hab.2)
  rw [ignoredWarnings, List.mem_map_of_injective hinjective, List.mem_filter, decide_eq_true_eq]

theorem Segments.mem_listedOrigins {text origin : String} (h : Segments text pieces) :
    origin ∈ listedOrigins text ↔ Allows pieces origin := by
  rw [Bistro.mem_listedOrigins, h.originPieces_eq]

/-- A start with the wildcard among the segments ends before it listens. -/
theorem launch_of_wildcard (h : Segments settings.originUrls pieces) {piece : String}
    (hmem : piece ∈ pieces) (hpiece : trim piece = "*") (portTaken : Bool) :
    launch settings portTaken = ⟨ignoredWarnings pieces, .error .wildcardOrigin⟩ := by
  have hlisted : "*" ∈ listedOrigins settings.originUrls :=
    wildcard_mem_listedOrigins.2 ⟨piece, h.originPieces_eq ▸ hmem, hpiece⟩
  unfold launch
  rw [if_pos (List.contains_iff_mem.2 hlisted), ← h.warnings_eq]
  rfl

theorem launch_of_no_wildcard (h : Segments settings.originUrls pieces)
    (hpieces : ∀ piece ∈ pieces, trim piece ≠ "*") (portTaken : Bool) :
    ∃ text, launch settings portTaken = ⟨ignoredWarnings pieces ++ [.message .info text],
      if portTaken then .error (.portTaken settings.port)
      else .ok ⟨⟨settings.backendUrl, settings.restaurantName⟩,
        listedOrigins settings.originUrls⟩⟩ := by
  have hlisted : "*" ∉ listedOrigins settings.originUrls := by
    rw [wildcard_mem_listedOrigins, h.originPieces_eq]
    rintro ⟨piece, hmem, hpiece⟩
    exact hpieces piece hmem hpiece
  unfold launch
  rw [if_neg (mt List.contains_iff_mem.1 hlisted), ← h.warnings_eq]
  exact ⟨_, rfl⟩

theorem grants_of_launch (h : Segments settings.originUrls pieces) {portTaken : Bool} {site : Site}
    (hsite : (launch settings portTaken).site = .ok site) : site.Grants (Allows pieces) := by
  have hpieces : ∀ piece ∈ pieces, trim piece ≠ "*" := by
    intro piece hmem hpiece
    rw [launch_of_wildcard h hmem hpiece] at hsite
    cases hsite
  obtain ⟨text, hlaunch⟩ := launch_of_no_wildcard h hpieces portTaken
  rw [hlaunch] at hsite
  cases portTaken <;> cases hsite
  exact Site.grants_of_mem fun origin => h.mem_listedOrigins

theorem allows_congr {others : List String}
    (h : ∀ s, IsHeaderText s → (s ∈ others.map trim ↔ s ∈ pieces.map trim)) :
    Allows others = Allows pieces := by
  have hmem : ∀ {l : List String} {origin : String}, Allows l origin ↔
      ∃ s, s ∈ l.map trim ∧ IsHeaderText s ∧ utf8 s = utf8 origin := by
    intro l origin
    constructor
    · rintro ⟨piece, hpiece, hvalue⟩
      exact ⟨_, List.mem_map_of_mem hpiece, hvalue⟩
    · rintro ⟨s, hs, hvalue⟩
      obtain ⟨piece, hpiece, rfl⟩ := List.mem_map.1 hs
      exact ⟨piece, hpiece, hvalue⟩
  funext origin
  rw [eq_iff_iff, hmem, hmem]
  exact exists_congr fun s => and_congr_left fun hs => h s hs.1

/-- A start breaks off in two ways only: before it listens, if one of the segments is the wildcard,
and when it listens, if the port is taken. Either way it has warned of the segments that cannot be
the value of a header, and of nothing else. -/
theorem launch_breaks_off (settings : Settings) (portTaken : Bool) :
    ∃ pieces, Segments settings.originUrls pieces ∧
      ((∃ piece ∈ pieces, trim piece = "*" ∧ ignoredWarning piece ∉ ignoredWarnings pieces) ∧
          launch settings portTaken = ⟨ignoredWarnings pieces, .error .wildcardOrigin⟩ ∨
        (∀ piece ∈ pieces, trim piece ≠ "*") ∧
          ∃ text, launch settings portTaken = ⟨ignoredWarnings pieces ++ [.message .info text],
            if portTaken then .error (.portTaken settings.port)
            else .ok ⟨⟨settings.backendUrl, settings.restaurantName⟩,
              listedOrigins settings.originUrls⟩⟩) := by
  have hsegments := segments_originPieces settings.originUrls
  refine ⟨_, hsegments, ?_⟩
  by_cases hwildcard : ∃ piece ∈ originPieces settings.originUrls, trim piece = "*"
  · obtain ⟨piece, hmem, hpiece⟩ := hwildcard
    refine .inl ⟨⟨piece, hmem, hpiece, ?_⟩, launch_of_wildcard hsegments hmem hpiece portTaken⟩
    rw [ignoredWarning_mem_iff, hpiece]
    exact fun h => h.2 (by decide +kernel)
  · push Not at hwildcard
    exact .inr ⟨hwildcard, launch_of_no_wildcard hsegments hwildcard portTaken⟩

/-- The wildcard alone is neither granted nor warned of, and a taken port is not reported as a
failure of the server. -/
theorem launch_of_wildcard_or_taken_port :
    launch { Settings.default with originUrls := "*" } false = ⟨[], .error .wildcardOrigin⟩ ∧
      (launch .default true).site = .error (.portTaken 3000) ∧
      (Crash.portTaken 3000).message = "error binding to 0.0.0.0:3000: " ++
        "error creating server listener: Address already in use (os error 98)" := by
  have hwildcard : Segments "*" ["*"] := ⟨by simp, by decide, by decide⟩
  have hdefault : Segments Settings.default.originUrls ["http://localhost:3000"] :=
    ⟨by simp, by decide, by decide⟩
  have hproper : ∀ piece ∈ ["http://localhost:3000"], trim piece ≠ "*" := by
    decide +kernel
  obtain ⟨text, htaken⟩ := launch_of_no_wildcard hdefault hproper true
  refine ⟨?_, by rw [htaken]; rfl, rfl⟩
  have hstar : trim "*" = "*" := by
    decide +kernel
  have hnone : ignoredWarnings ["*"] = [] := by
    decide +kernel
  rw [← hnone]
  exact launch_of_wildcard hwildcard List.mem_cons_self hstar false

/-- A list without the wildcard is granted by its segments. Those that cannot be the value of a
header are warned of, and another list with the same other segments is granted alike: without them,
in another order, or with some of them repeated. -/
theorem grants_listed_origins (settings : Settings) :
    ∃ pieces, Segments settings.originUrls pieces ∧
      ((∀ piece ∈ pieces, trim piece ≠ "*") →
        ∃ site text, launch settings false =
            ⟨ignoredWarnings pieces ++ [.message .info text], .ok site⟩ ∧
          site.Grants (Allows pieces) ∧
          ∀ (settings' : Settings) (pieces' : List String) (site' : Site),
            Segments settings'.originUrls pieces' → (launch settings' false).site = .ok site' →
            (∀ s, IsHeaderText s → (s ∈ pieces'.map trim ↔ s ∈ pieces.map trim)) →
            site'.Grants (Allows pieces)) := by
  have hsegments := segments_originPieces settings.originUrls
  refine ⟨_, hsegments, fun hpieces => ?_⟩
  obtain ⟨text, hlaunch⟩ := launch_of_no_wildcard hsegments hpieces false
  refine ⟨_, text, hlaunch, grants_of_launch hsegments (congrArg Launch.site hlaunch), ?_⟩
  intro settings' pieces' site' hsegments' hsite hsame
  rw [← allows_congr hsame]
  exact grants_of_launch hsegments' hsite

/-- A control character takes its segment out of the list, wherever it stands. -/
theorem grants_around_control_character :
    let settings := { Settings.default with originUrls := " http://a ,b\x01,,http://c\t,http://a" }
    let settings' := { Settings.default with originUrls := "http://c,,http://a" }
    let pieces := [" http://a ", "b\x01", "", "http://c\t", "http://a"]
    Segments settings.originUrls pieces ∧ (∀ piece ∈ pieces, trim piece ≠ "*") ∧
      (∀ s, IsHeaderText s → (s ∈ ["http://c", "", "http://a"].map trim ↔ s ∈ pieces.map trim)) ∧
      ∃ site text site', launch settings false =
          ⟨[ignoredWarning "b\x01", .message .info text], .ok site⟩ ∧
        site.Grants (Allows pieces) ∧ (launch settings' false).site = .ok site' ∧
        site'.Grants (Allows pieces) ∧ Allows pieces "http://c" ∧ ¬ Allows pieces "b\x01" := by
  intro settings settings' pieces
  have hsegments : Segments settings.originUrls pieces := ⟨by simp [pieces], by decide, by decide⟩
  have hsegments' : Segments settings'.originUrls ["http://c", "", "http://a"] :=
    ⟨by simp, by decide, by decide⟩
  have hproper : ∀ piece ∈ pieces, trim piece ≠ "*" := by
    decide +kernel
  have hproper' : ∀ piece ∈ ["http://c", "", "http://a"], trim piece ≠ "*" := by
    decide +kernel
  have hcontrol : ¬ IsHeaderText "b\x01" := by
    decide +kernel
  have hsame : ∀ s, IsHeaderText s →
      (s ∈ ["http://c", "", "http://a"].map trim ↔ s ∈ pieces.map trim) := by
    have hmap : pieces.map trim = ["http://a", "b\x01", "", "http://c", "http://a"] := by
      decide +kernel
    have hmap' : ["http://c", "", "http://a"].map trim = ["http://c", "", "http://a"] := by
      decide +kernel
    intro s hs
    have hne : s ≠ "b\x01" := fun h => hcontrol (h ▸ hs)
    rw [hmap, hmap']
    simp only [List.mem_cons, List.not_mem_nil, or_false, hne]
    tauto
  have hwarnings : ignoredWarnings pieces = [ignoredWarning "b\x01"] := by
    decide +kernel
  obtain ⟨found, hfound, hgrants⟩ := grants_listed_origins settings
  obtain rfl : found = pieces := hfound.originPieces_eq.symm.trans hsegments.originPieces_eq
  obtain ⟨site, text, hlaunch, hsite, hothers⟩ := hgrants hproper
  obtain ⟨text', hlaunch'⟩ := launch_of_no_wildcard hsegments' hproper' false
  have hsite' := congrArg Launch.site hlaunch'
  rw [hwarnings] at hlaunch
  refine ⟨hsegments, hproper, hsame, site, text, _, hlaunch, hsite, hsite',
    hothers settings' _ _ hsegments' hsite' hsame, ⟨"http://c\t", ?_⟩, ?_⟩
  · decide +kernel
  · rintro ⟨piece, -, hvalue, hbytes⟩
    exact hcontrol (utf8_injective hbytes ▸ hvalue)

end Starting

end Bistro
