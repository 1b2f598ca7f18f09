import Bistro.Backend.Reply
import Bistro.Page.Layout
import Bistro.Proofs.Escape
import Bistro.Proofs.Members
import Bistro.Proofs.Run

/-!
# What a guest is told about a write

A submitted form is told as done exactly when the backend said so, in an answer that came in full
and with success, as not recorded exactly when such an answer says no, and as failed otherwise
(`content_iff_said`). What the guest typed stands in these messages, but no choice of it makes one
of them look like another (`html_done_ne_html_refused`).
-/

namespace Bistro

variable {σ : Type}

theorem html_rendered (f : Fragment) (n : Nat) (r : RegionId) :
    Region.html ⟨.rendered f, n⟩ r = "<div id=\"" ++ r.name ++ "\">" ++ f.html ++ "</div>" :=
  rfl

theorem html_rendered_injective {f g : Fragment} {n m : Nat} {r : RegionId}
    (h : Region.html ⟨.rendered f, n⟩ r = Region.html ⟨.rendered g, m⟩ r) : f.html = g.html := by
  have hchars := congrArg String.toList h
  simp only [html_rendered, String.toList_append, List.append_cancel_left_eq,
    List.append_cancel_right_eq] at hchars
  exact String.toList_inj.1 hchars

theorem html_rendered_ne_html_failed (f : Fragment) (text : String) (n m : Nat) (r : RegionId) :
    Region.html ⟨.rendered f, n⟩ r ≠ Region.html ⟨.failed text, m⟩ r := by
  intro h
  have hchars := congrArg String.toList h
  simp [Region.html] at hchars

theorem readBody_nil (contentType : Option String) : readBody contentType [] = "" := by
  show (Charset.ofContentType contentType).read [] = ""
  cases Charset.ofContentType contentType with
  | utf8 => rfl
  | utf16 bigEndian => rfl
  | page table => rfl
  | multibyte e => exact congrArg String.ofList e.read_nil
  | refused => rfl

/-- The forms of the page, each of which asks for something to be written. -/
inductive Submission where
  | reservation
  | review
  | restaurant
  deriving DecidableEq, Repr

namespace Submission

def operation (r : RegionId) (form : Form) : Submission → Operation
  | .reservation => .submitReservation r form
  | .review => .submitReview r form
  | .restaurant => .submitRestaurant r form

def call (form : Form) : Submission → Except Trouble Call
  | .reservation => .ok (.reserve form.reservation)
  | .review => form.review.map .postReview
  | .restaurant => form.restaurant.map .postDetail

/-- The status in a body, if the body has the form of the answer. -/
def status? (body : String) : Submission → Option Bool
  | .reservation => (Record.read (α := ReservationResponse) body).toOption.map (·.status)
  | .review | .restaurant => (Record.read (α := PostStatus) body).toOption.map (·.status)

/-- What the backend says of the write: nothing, unless its answer came in full, with success, and
says it in its body. -/
def said (outcome : Outcome) (w : Submission) : Option Bool :=
  match outcome with
  | .ok a => if 200 ≤ a.status ∧ a.status ≤ 299 then w.status? a.text else none
  | .error _ => none

/-- What the guest is told when the write is done. -/
def doneText (form : Form) : Submission → String
  | .reservation =>
    "Reservation confirmed for " ++ form.value .userName ++ " at " ++ form.value .restaurantName ++
      " on " ++ form.value .year ++ "-" ++ form.value .month ++ "-" ++ form.value .day
  | .review =>
    "Thanks " ++ form.value .userName ++ ", your review of " ++ form.value .restaurantName ++
      " was posted."
  | .restaurant => form.value .restaurantName ++ " was saved."

/-- What the guest is told when the write is refused. -/
def refusedText (form : Form) : Submission → String
  | .reservation =>
    "Reservation for " ++ form.value .userName ++ " at " ++ form.value .restaurantName ++
      " was not recorded, please try again."
  | .review => "Review was not recorded, please try again."
  | .restaurant => "Restaurant was not recorded, please try again."

/-- Whether markup reads as the message of a write that is done, whoever and whatever it names. -/
def LooksDone (html : String) : Submission → Prop
  | .reservation => ∃ rest, html = "<p>Reservation confirmed for " ++ rest
  | .review => ∃ rest, html = "<p>Thanks " ++ rest
  | .restaurant => ∃ front, html = front ++ " was saved.</p>"

def refusedHead : Submission → String
  | .reservation => "<p>Reservation for "
  | .review => "<p>Review was "
  | .restaurant => "<p>Restaurant was "

variable {form : Form} {w : Submission} {c : Call}

/-- The call of a form without fault, with the values that were typed. -/
theorem call_cases (h : w.call form = .ok c) :
    (w = .reservation ∧ c = .reserve form.reservation) ∨
      (∃ rating, w = .review ∧ c = .postReview
        ⟨form.value .userName, form.value .restaurantName, form.value .review, rating⟩) ∨
      ∃ capacity, w = .restaurant ∧ c = .postDetail
        ⟨form.value .restaurantName, form.value .location, form.value .style, capacity⟩ := by
  cases w with
  | reservation =>
    simp only [call, Except.ok.injEq] at h
    exact .inl ⟨rfl, h.symm⟩
  | review =>
    rcases hn : form.number .rating with t | n
    · simp [call, Form.review, hn, Except.map] at h
    · simp only [call, Form.review, hn, Except.map, Except.ok.injEq] at h
      exact .inr (.inl ⟨n, rfl, h.symm⟩)
  | restaurant =>
    rcases hn : form.number .capacity with t | n
    · simp [call, Form.restaurant, hn, Except.map] at h
    · simp only [call, Form.restaurant, hn, Except.map, Except.ok.injEq] at h
      exact .inr (.inr ⟨n, rfl, h.symm⟩)

/-- What the region shows of an answer with success, by the status in its body. -/
theorem content_of_status (h : w.call form = .ok c) {a : Answer}
    (hok : 200 ≤ a.status ∧ a.status ≤ 299) :
    match w.status? a.text with
    | some true => c.content (.ok a) = .rendered (.message (w.doneText form))
    | some false => c.content (.ok a) = .rendered (.message (w.refusedText form))
    | none => ∃ text, c.content (.ok a) = .failed text := by
  rw [c.content_of_success hok]
  rcases call_cases h with ⟨rfl, rfl⟩ | ⟨rating, rfl, rfl⟩ | ⟨capacity, rfl, rfl⟩
  · simp only [status?, Call.read]
    rcases Record.read (α := ReservationResponse) a.text with e | ⟨_ | _⟩
    · exact ⟨_, rfl⟩
    · rfl
    · rfl
  all_goals
    simp only [status?, Call.read]
    rcases Record.read (α := PostStatus) a.text with e | ⟨_ | _⟩
    · exact ⟨_, rfl⟩
    · rfl
    · rfl

def statusFields : Fields :=
  .cons "status" false .boolean .nil

theorem read_status_of_absent {text : String} {names : List String}
    (h : Json.readAll Json.readNames text = .ok names) (hstatus : "status" ∉ names)
    (name : String) :
    Json.readAll ((Shape.record name statusFields).read Json.maxLevels) text = .ok (false, ()) := by
  unfold Json.readAll at h ⊢
  rcases hnames : Json.readNames text.toList with e | ⟨names', rest⟩
  · simp only [hnames] at h
    cases h
  · simp only [hnames, Json.finish] at h
    split at h
    · rename_i hrest
      cases h
      have hother : ∀ field ∈ names, ∀ r,
          statusFields.readMember (Json.maxLevels - 1) statusFields.noSlots field r = none := by
        intro field hfield r
        have hne : field ≠ "status" := fun h => hstatus (h ▸ hfield)
        simp only [statusFields, Fields.noSlots, Fields.readMember, if_neg hne, Option.map_none]
      have hread := Json.read_record_of_names name (by decide) rfl hnames hother
      simp only [hread, Json.finish, hrest]
      rfl
    · cases h

theorem read_reservationResponse_of_absent {text : String} {names : List String}
    (h : Json.readAll Json.readNames text = .ok names) (hstatus : "status" ∉ names) :
    Record.read text = .ok (⟨false⟩ : ReservationResponse) := by
  show (Json.readAll ((Shape.record "ReservationResponse" statusFields).read Json.maxLevels)
    text).map (Record.ofValue (α := ReservationResponse)) = _
  rw [read_status_of_absent h hstatus]
  rfl

theorem read_postStatus_of_absent {text : String} {names : List String}
    (h : Json.readAll Json.readNames text = .ok names) (hstatus : "status" ∉ names) :
    Record.read text = .ok (⟨false⟩ : PostStatus) := by
  show (Json.readAll ((Shape.record "PostStatus" statusFields).read Json.maxLevels)
    text).map (Record.ofValue (α := PostStatus)) = _
  rw [read_status_of_absent h hstatus]
  rfl

/-- A status that is absent means no, whatever else is in the answer. -/
theorem status?_of_absent {text : String} {names : List String}
    (h : Json.readAll Json.readNames text = .ok names) (hstatus : "status" ∉ names)
    (w : Submission) : w.status? text = some false := by
  cases w with
  | reservation => rw [status?, read_reservationResponse_of_absent h hstatus]; rfl
  | review => rw [status?, read_postStatus_of_absent h hstatus]; rfl
  | restaurant => rw [status?, read_postStatus_of_absent h hstatus]; rfl

example (w : Submission) : w.status? "\x7b\x7d" = some false := by
  cases w <;> rfl

theorem status?_empty (w : Submission) : w.status? "" = none := by
  cases w <;> rfl

theorem said_ok (w : Submission) (a : Answer) (b : Bool) :
    w.said (.ok a) = some b ↔ (200 ≤ a.status ∧ a.status ≤ 299) ∧ w.status? a.text = some b := by
  simp only [said]
  split_ifs with h <;> simp [h]

/-- A reply that sends nobody elsewhere says something of the write only if it is whole, with
success and a body. -/
theorem said_land {flight : Flight} {reply : Reply}
    (h : reply.redirect? flight.request = none) :
    ∃ outcome, flight.land reply = .inl outcome ∧ ∀ (w : Submission) (b : Bool),
      w.said outcome = some b ↔
        reply.fate = .whole ∧ (200 ≤ reply.status ∧ reply.status ≤ 299) ∧ reply.status ≠ 204 ∧
          w.status? (readBody reply.contentType reply.body) = some b := by
  simp only [Flight.land, h]
  split_ifs with hlost hbare hcut
  · refine ⟨_, rfl, fun w b => iff_of_false (by simp [said]) ?_⟩
    rintro ⟨hwhole, hok, -⟩
    rcases hlost with hdropped | hinterim
    · rw [hwhole] at hdropped
      cases hdropped
    · simp only [isInterim, Bool.and_eq_true, decide_eq_true_eq] at hinterim
      omega
  · refine ⟨_, rfl, fun w b => ?_⟩
    rw [said_ok]
    refine iff_of_false ?_ ?_
    · rintro ⟨-, hsaid⟩
      rw [Answer.text, readBody_nil, status?_empty] at hsaid
      cases hsaid
    · rintro ⟨-, hok, hbody, -⟩
      simp only [isBare, Bool.or_eq_true, beq_iff_eq] at hbare
      omega
  · refine ⟨_, rfl, fun w b => iff_of_false (by simp [said]) ?_⟩
    rintro ⟨hwhole, -⟩
    rw [hwhole] at hcut
    cases hcut
  · refine ⟨_, rfl, fun w b => ?_⟩
    have hwhole : reply.fate = .whole := by
      rcases hf : reply.fate
      · rfl
      · exact absurd (.inl hf) hlost
      · exact absurd hf hcut
    have hbody : reply.status ≠ 204 := by
      rintro h204
      exact hbare (by rw [h204]; rfl)
    rw [said_ok]
    exact ⟨fun ⟨hok, hsaid⟩ => ⟨hwhole, hok, hbody, hsaid⟩,
      fun ⟨_, hok, _, hsaid⟩ => ⟨hok, hsaid⟩⟩

theorem append_ne_append {a b : String} (hab : ¬ a.toList <+: b.toList)
    (hba : ¬ b.toList <+: a.toList) (s t : String) : a ++ s ≠ b ++ t := by
  intro h
  have hchars := congrArg String.toList h
  rw [String.toList_append, String.toList_append] at hchars
  rcases List.prefix_or_prefix_of_prefix (hchars ▸ List.prefix_append a.toList s.toList)
    (List.prefix_append b.toList t.toList) with hp | hp
  · exact hab hp
  · exact hba hp

theorem append_ne_append' {a b : String} (hab : ¬ a.toList <:+ b.toList)
    (hba : ¬ b.toList <:+ a.toList) (s t : String) : s ++ a ≠ t ++ b := by
  intro h
  have hchars := congrArg String.toList h
  rw [String.toList_append, String.toList_append] at hchars
  rcases List.suffix_or_suffix_of_suffix (hchars ▸ List.suffix_append s.toList a.toList)
    (List.suffix_append t.toList b.toList) with hp | hp
  · exact hab hp
  · exact hba hp

theorem html_message (text : String) :
    (Fragment.message text).html = "<p>" ++ escape text ++ "</p>" :=
  rfl

/-- Words at the beginning of a text stand at the beginning of its message, if they need no
escaping. -/
theorem exists_html_message {head : String} (h : escape head = head) (s : String) :
    ∃ t, (Fragment.message (head ++ s)).html = "<p>" ++ head ++ t := by
  refine ⟨escape s ++ "</p>", ?_⟩
  simp only [html_message, escape_append, h, String.append_assoc]

theorem exists_html_message' {last : String} (h : escape last = last) (s : String) :
    ∃ t, (Fragment.message (s ++ last)).html = t ++ (last ++ "</p>") := by
  refine ⟨"<p>" ++ escape s, ?_⟩
  simp only [html_message, escape_append, h, String.append_assoc]

theorem looksDone_done (form : Form) (w : Submission) :
    w.LooksDone (Fragment.message (w.doneText form)).html := by
  cases w with
  | reservation =>
    have htext : doneText form .reservation = "Reservation confirmed for " ++
        (form.value .userName ++ (" at " ++ (form.value .restaurantName ++ (" on " ++
          (form.value .year ++ ("-" ++ (form.value .month ++ ("-" ++ form.value .day)))))))) := by
      simp only [← String.append_assoc]
      rfl
    rw [htext]
    exact exists_html_message (by decide) _
  | review =>
    have htext : doneText form .review = "Thanks " ++ (form.value .userName ++
        (", your review of " ++ (form.value .restaurantName ++ " was posted."))) := by
      simp only [← String.append_assoc]
      rfl
    rw [htext]
    exact exists_html_message (by decide) _
  | restaurant => exact exists_html_message' (by decide) _

theorem html_refused_head (form : Form) (w : Submission) :
    ∃ t, (Fragment.message (w.refusedText form)).html = w.refusedHead ++ t := by
  cases w with
  | reservation =>
    have htext : refusedText form .reservation = "Reservation for " ++ (form.value .userName ++
        (" at " ++ (form.value .restaurantName ++ " was not recorded, please try again."))) := by
      simp only [← String.append_assoc]
      rfl
    rw [htext]
    exact exists_html_message (by decide) _
  | review =>
    show ∃ t, (Fragment.message "Review was not recorded, please try again.").html =
      "<p>Review was " ++ t
    exact ⟨"not recorded, please try again.</p>", by decide⟩
  | restaurant =>
    show ∃ t, (Fragment.message "Restaurant was not recorded, please try again.").html =
      "<p>Restaurant was " ++ t
    exact ⟨"not recorded, please try again.</p>", by decide⟩

theorem html_refused_last (form : Form) (w : Submission) :
    ∃ t, (Fragment.message (w.refusedText form)).html =
      t ++ " was not recorded, please try again.</p>" := by
  cases w with
  | reservation => exact exists_html_message' (by decide) _
  | review =>
    show ∃ t, (Fragment.message "Review was not recorded, please try again.").html =
      t ++ " was not recorded, please try again.</p>"
    exact ⟨"<p>Review", by decide⟩
  | restaurant =>
    show ∃ t, (Fragment.message "Restaurant was not recorded, please try again.").html =
      t ++ " was not recorded, please try again.</p>"
    exact ⟨"<p>Restaurant", by decide⟩

/-- No refused write looks like one that is done, whatever was typed. -/
theorem not_looksDone_refused (form : Form) (w w' : Submission) :
    ¬ w.LooksDone (Fragment.message (w'.refusedText form)).html := by
  obtain ⟨t, hhead⟩ := html_refused_head form w'
  obtain ⟨t', hlast⟩ := html_refused_last form w'
  cases w with
  | reservation =>
    rintro ⟨rest, h⟩
    refine append_ne_append ?_ ?_ rest t (h.symm.trans hhead)
    all_goals cases w' <;> decide
  | review =>
    rintro ⟨rest, h⟩
    refine append_ne_append ?_ ?_ rest t (h.symm.trans hhead)
    all_goals cases w' <;> decide
  | restaurant =>
    rintro ⟨front, h⟩
    exact append_ne_append' (by decide) (by decide) front t' (h.symm.trans hlast)

theorem html_done_ne_html_refused (form form' : Form) (w w' : Submission) :
    (Fragment.message (w.doneText form)).html ≠ (Fragment.message (w'.refusedText form')).html :=
  fun h => not_looksDone_refused form' w w' (h ▸ looksDone_done form w)

/-! ## What is shown -/

theorem targets_operation (r : RegionId) (form : Form) (w : Submission) :
    (w.operation r form).targets = [r] := by
  cases w <;> rfl

theorem callFor_operation (r : RegionId) (form : Form) (w : Submission) :
    (w.operation r form).callFor r = w.call form := by
  cases w <;> rfl

theorem place_operation (base : String) (r : RegionId) (form : Form) (w : Submission) :
    (w.operation r form).place base r = 0 := by
  simp [Operation.place, targets_operation]

theorem requests_operation (base : String) (r : RegionId) (h : w.call form = .ok c) :
    (w.operation r form).requests base = (c.request? base).toList := by
  have hcalls : (w.operation r form).calls = [c] := by
    simp [Operation.calls, targets_operation, callFor_operation, h, Except.toOption]
  rw [Operation.requests, hcalls]
  cases h : c.request? base <;> simp [h]

theorem refused_operation (r : RegionId) (form : Form) (w : Submission) :
    (w.operation r form).refused = !(w.call form).isOk := by
  rw [← callFor_operation r, Operation.isOk_callFor, Bool.not_not]

/-- Exactly one of the three is shown, by what the backend said. -/
theorem content_said (h : w.call form = .ok c) (outcome : Outcome) :
    match w.said outcome with
    | some true => c.content outcome = .rendered (.message (w.doneText form))
    | some false => c.content outcome = .rendered (.message (w.refusedText form))
    | none => ∃ text, c.content outcome = .failed text := by
  rcases outcome with f | a
  · exact ⟨_, c.content_of_failure f⟩
  · by_cases hok : 200 ≤ a.status ∧ a.status ≤ 299
    · simp only [said, if_pos hok]
      exact content_of_status h hok
    · simp only [said, if_neg hok]
      exact ⟨_, c.content_of_rejection hok⟩

/-- The message of a write that is done is shown exactly if the backend said so, that of a refused
one exactly if the backend said no, and a failure otherwise. -/
theorem content_iff_said (h : w.call form = .ok c) (outcome : Outcome) :
    ((∃ f, c.content outcome = .rendered f ∧ w.LooksDone f.html) ↔ w.said outcome = some true) ∧
      (w.said outcome = some true → c.content outcome = .rendered (.message (w.doneText form))) ∧
      ((∃ f, c.content outcome = .rendered f ∧
        f.html = (Fragment.message (w.refusedText form)).html) ↔ w.said outcome = some false) ∧
      ((∃ text, c.content outcome = .failed text) ↔ w.said outcome = none) := by
  have hcontent := content_said h outcome
  rcases hs : w.said outcome with _ | _ | _ <;> simp only [hs] at hcontent
  · obtain ⟨text, htext⟩ := hcontent
    simp [htext]
  · simp only [hcontent]
    refine ⟨iff_of_false ?_ (by simp), by simp, iff_of_true ⟨_, rfl, rfl⟩ trivial,
      iff_of_false ?_ (by simp)⟩
    · rintro ⟨f, hf, hdone⟩
      cases hf
      exact not_looksDone_refused form w w hdone
    · rintro ⟨text, htext⟩
      cases htext
  · simp only [hcontent]
    refine ⟨iff_of_true ⟨_, rfl, looksDone_done form w⟩ trivial, fun _ => trivial,
      iff_of_false ?_ (by simp), iff_of_false ?_ (by simp)⟩
    · rintro ⟨f, hf, hrefused⟩
      cases hf
      exact html_done_ne_html_refused form form w w hrefused
    · rintro ⟨text, htext⟩
      cases htext

/-- What the region of a submitted form shows after the submission. -/
theorem content_perform (backend : Backend σ) (base : String) (v : Visit σ) (r : RegionId)
    (form : Form) (w : Submission) :
    ((v.perform backend base (w.operation r form)).document.region r).content =
      match w.call form with
      | .ok c => c.content (c.ending base
          ((backend.exchange v.progress.state (c.request? base).toList).1 0))
      | .error t => .failed t.message := by
  rw [Visit.region_perform, if_pos (by simp [targets_operation])]
  simp only [Region.write, Visit.written, Operation.written, callFor_operation, place_operation]
  cases h : w.call form with
  | ok c => rw [requests_operation base r h]
  | error t => rfl

/-- After a form was submitted, its region shows that the write is done exactly if the backend said
so, that it was not recorded exactly if the backend said no, and a failure in every other case, also
if the form is refused. A status that is absent means no. A reply says something only if it is
whole, with success and a body that has the form of the answer. Whatever is typed into whichever
forms, regions with the three kinds of notices differ. -/
theorem submit_reports (backend : Backend σ) (base : String) (v : Visit σ) (r : RegionId)
    (form : Form) :
    (∀ w : Submission,
      let shown := ((v.perform backend base (w.operation r form)).document.region r).content
      ((w.operation r form).refused = true → ∃ text, shown = .failed text) ∧
        ((w.operation r form).refused = false → ∃ c, w.call form = .ok c ∧
          let outcome :=
            c.ending base ((backend.exchange v.progress.state (c.request? base).toList).1 0)
          ((∃ f, shown = .rendered f ∧ w.LooksDone f.html) ↔ w.said outcome = some true) ∧
            (w.said outcome = some true → shown = .rendered (.message (w.doneText form))) ∧
            ((∃ f, shown = .rendered f ∧ f.html = (Fragment.message (w.refusedText form)).html) ↔
              w.said outcome = some false) ∧
            ((∃ text, shown = .failed text) ↔ w.said outcome = none))) ∧
      (∀ (w : Submission) (text : String) (names : List String),
        Json.readAll Json.readNames text = .ok names → "status" ∉ names →
          w.status? text = some false) ∧
      (∀ (flight : Flight) (reply : Reply), reply.redirect? flight.request = none →
        ∃ outcome, flight.land reply = .inl outcome ∧ ∀ (w : Submission) (b : Bool),
          w.said outcome = some b ↔
            reply.fate = .whole ∧ (200 ≤ reply.status ∧ reply.status ≤ 299) ∧
              reply.status ≠ 204 ∧
              w.status? (readBody reply.contentType reply.body) = some b) ∧
      ∀ (w w' : Submission) (form' : Form) (text : String) (n n' n'' : Nat),
        let done := Region.html ⟨.rendered (.message (w.doneText form)), n⟩ r
        let refused := Region.html ⟨.rendered (.message (w'.refusedText form')), n'⟩ r
        let failed := Region.html ⟨.failed text, n''⟩ r
        done ≠ refused ∧ done ≠ failed ∧ refused ≠ failed := by
  refine ⟨fun w => ?_, fun w text names h hstatus => status?_of_absent h hstatus w,
    fun flight reply => said_land, fun w w' form' text n n' n'' => ?_⟩
  · intro shown
    have hshown : shown = _ := content_perform backend base v r form w
    rw [refused_operation]
    cases h : w.call form with
    | error t =>
      rw [h] at hshown
      exact ⟨fun _ => ⟨_, hshown⟩, fun hok => Bool.noConfusion hok⟩
    | ok c =>
      rw [h] at hshown
      refine ⟨fun hok => Bool.noConfusion hok, fun _ => ⟨c, rfl, ?_⟩⟩
      intro outcome
      rw [hshown]
      exact content_iff_said h outcome
  · refine ⟨?_, ?_, ?_⟩
    · intro h
      exact html_done_ne_html_refused form form' w w' (html_rendered_injective h)
    · exact html_rendered_ne_html_failed _ text n n'' r
    · exact html_rendered_ne_html_failed _ text n' n'' r

end Submission

end Bistro
