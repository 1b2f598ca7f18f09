import Bistro.Backend.Probe
import Bistro.Proofs.Report
import Bistro.Proofs.Trimmed

/-!
# Results of calls

Which kind of result a call has depends on what was heard alone: nothing, or a status with a text.
It is a network trouble if nothing was heard, also where a status had come already, a rejection if
the status is no success, whatever the text is, and what the text reads as otherwise
(`Call.classified_by_what_is_heard`). A trouble that has an endpoint has that of the call.
-/

namespace Bistro

/-- What is heard of a reply: its status and its text, if all of it arrived. A bare reply has no
body that could be cut. -/
def Reply.heard (reply : Reply) : Option (Nat × String) :=
  if reply.fate = .dropped ∨ isInterim reply.status then none
  else if isBare reply.status then some (reply.status, "")
  else if reply.fate = .truncated then none
  else some (reply.status, readBody reply.contentType reply.body)

def Outcome.heard : Outcome → Option (Nat × String)
  | .ok a => some (a.status, a.text)
  | .error _ => none

/-- How the exchange of a request ends that is not sent elsewhere, and what is heard of it. It
fails, for any reason, before a reply came or while its body is received, whatever the status was,
or a reply comes that ends the flight. -/
inductive Exchanged (request : Request) : Outcome → Option (Nat × String) → Prop
  | failed {f : Failure} (early : f.stage = .sending ∨ f.stage = .receiving) :
      Exchanged request (.error f) none
  | replied {flight : Flight} {reply : Reply} {outcome : Outcome}
      (same : flight.request = request) (stays : reply.redirect? request = none)
      (lands : flight.land reply = .inl outcome) : Exchanged request outcome reply.heard

/-- A reply that sends nobody elsewhere ends the flight, and nothing is added to what is heard. -/
theorem Flight.heard_land {flight : Flight} {reply : Reply}
    (h : reply.redirect? flight.request = none) :
    ∃ outcome : Outcome, flight.land reply = .inl outcome ∧ outcome.heard = reply.heard := by
  simp only [land, Reply.heard, h]
  split_ifs with hlost hbare hcut
  · exact ⟨_, rfl, rfl⟩
  · exact ⟨_, rfl, by rw [Outcome.heard, Answer.text, readBody_nil]⟩
  · exact ⟨_, rfl, rfl⟩
  · exact ⟨_, rfl, rfl⟩

theorem Exchanged.heard_eq {request : Request} {outcome : Outcome} {heard : Option (Nat × String)}
    (h : Exchanged request outcome heard) : outcome.heard = heard := by
  cases h with
  | failed early => rfl
  | replied same stays lands =>
    subst same
    obtain ⟨outcome', hland, hheard⟩ := Flight.heard_land stays
    rw [lands] at hland
    cases hland
    exact hheard

namespace Failure

variable {f : Failure}

theorem trouble_eq_network (h : f.stage ≠ .decoding) : f.trouble = .network f.message :=
  if_neg h

theorem stage_of_make {method : Method} {address : String} {pairs : List (String × String)}
    (h : Request.make method address pairs = .error f) : f.stage = .building := by
  unfold Request.make at h
  split at h
  · cases h
    rfl
  · dsimp only at h
    split_ifs at h
    all_goals
      cases h
      rfl

theorem stage_of_land {flight : Flight} {reply : Reply}
    (h : flight.land reply = .inl (.error f)) : f.stage ≠ .decoding := by
  unfold Flight.land at h
  dsimp only at h
  split at h
  · cases h
    nofun
  · split at h
    · split_ifs at h
      cases h
      nofun
    · split_ifs at h with hbare hcut
      · cases h
      · cases h
        nofun
      · cases h

end Failure

theorem Exchanged.stage_ne_decoding {request : Request} {f : Failure}
    {heard : Option (Nat × String)} (h : Exchanged request (.error f) heard) :
    f.stage ≠ .decoding := by
  cases h with
  | failed early =>
    intro hd
    rw [hd] at early
    exact early.elim nofun nofun
  | replied same stays lands => exact Failure.stage_of_land lands

namespace Call

/-- What a call to the backend at `base` results in, if the exchange of its request, where it has
one, ends as `outcome` says. -/
def result (base : String) (c : Call) (outcome : Outcome) : Except Trouble c.Answer :=
  c.conclude (c.ending base outcome)

/-- When each kind of result comes, by what was heard: the kinds exclude each other. A trouble that
has an endpoint has that of the call. -/
structure Classified (c : Call) (heard : Option (Nat × String))
    (result : Except Trouble c.Answer) : Prop where
  network : (∃ reason, result = .error (.network reason)) ↔ heard = none
  rejected : ∀ endpoint status reason, result = .error (.rejected endpoint status reason) ↔
    ∃ text, heard = some (status, text) ∧ ¬ (200 ≤ status ∧ status ≤ 299) ∧
      endpoint = c.endpoint.path ∧ IsTrimmed text.toList reason.toList
  parse : ∀ endpoint reason, result = .error (.parse endpoint reason) ↔
    ∃ status text e, heard = some (status, text) ∧ (200 ≤ status ∧ status ≤ 299) ∧
      c.read text = .error e ∧ endpoint = c.endpoint.path ∧ reason = e.message
  answered : ∀ answer, result = .ok answer ↔
    ∃ status text, heard = some (status, text) ∧ (200 ≤ status ∧ status ≤ 299) ∧
      c.read text = .ok answer
  valid : ∀ reason, result ≠ .error (.invalidInput reason)

theorem trim_eq_iff {s t : String} : trim s = t ↔ IsTrimmed s.toList t.toList := by
  rw [← trimChars_eq_iff, trim, ← String.toList_inj, String.toList_ofList]

section Heard

variable {c : Call} {status : Nat} {text : String}

theorem classified_of_rejection (hno : ¬ (200 ≤ status ∧ status ≤ 299)) :
    c.Classified (some (status, text))
      (.error (.rejected c.endpoint.path status (trim text))) where
  network := iff_of_false nofun nofun
  rejected endpoint status' reason := by
    constructor
    · intro h
      cases h
      exact ⟨text, rfl, hno, rfl, trim_eq_iff.1 rfl⟩
    · rintro ⟨text', h, -, rfl, htrim⟩
      cases h
      rw [trim_eq_iff.2 htrim]
  parse endpoint reason := iff_of_false nofun <| by
    rintro ⟨status', text', e, h, hok, -⟩
    cases h
    exact hno hok
  answered answer := iff_of_false nofun <| by
    rintro ⟨status', text', h, hok, -⟩
    cases h
    exact hno hok
  valid reason := nofun

theorem classified_of_unread (hok : 200 ≤ status ∧ status ≤ 299) {e : Json.ReadError}
    (hread : c.read text = .error e) :
    c.Classified (some (status, text)) (.error (.parse c.endpoint.path e.message)) where
  network := iff_of_false nofun nofun
  rejected endpoint status' reason := iff_of_false nofun <| by
    rintro ⟨text', h, hno, -⟩
    cases h
    exact hno hok
  parse endpoint reason := by
    constructor
    · intro h
      cases h
      exact ⟨status, text, e, rfl, hok, hread, rfl, rfl⟩
    · rintro ⟨status', text', e', h, -, hread', rfl, rfl⟩
      cases h
      rw [hread] at hread'
      cases hread'
      rfl
  answered answer := iff_of_false nofun <| by
    rintro ⟨status', text', h, -, hread'⟩
    cases h
    rw [hread] at hread'
    cases hread'
  valid reason := nofun

theorem classified_of_read (hok : 200 ≤ status ∧ status ≤ 299) {answer : c.Answer}
    (hread : c.read text = .ok answer) :
    c.Classified (some (status, text)) (.ok answer) where
  network := iff_of_false nofun nofun
  rejected endpoint status' reason := iff_of_false nofun <| by
    rintro ⟨text', h, hno, -⟩
    cases h
    exact hno hok
  parse endpoint reason := iff_of_false nofun <| by
    rintro ⟨status', text', e, h, -, hread', -⟩
    cases h
    rw [hread] at hread'
    cases hread'
  answered answer' := by
    constructor
    · intro h
      cases h
      exact ⟨status, text, rfl, hok, hread⟩
    · rintro ⟨status', text', h, -, hread'⟩
      cases h
      rw [hread] at hread'
      cases hread'
      rfl
  valid reason := nofun

end Heard

theorem classified_conclude (c : Call) : ∀ outcome : Outcome,
    c.Classified outcome.heard (c.conclude outcome)
  | .error f => by constructor <;> simp [conclude, Outcome.heard]
  | .ok a => by
    by_cases hok : 200 ≤ a.status ∧ a.status ≤ 299
    · rw [conclude, if_pos ((isSuccess_iff _).2 hok)]
      rcases hread : c.read a.text with e | answer
      · exact classified_of_unread hok hread
      · exact classified_of_read hok hread
    · rw [conclude, if_neg (mt (isSuccess_iff _).1 hok)]
      exact classified_of_rejection hok

/-- A call makes of a failure what is made of any other. Only one of decoding would be told apart,
and no exchange has it. -/
theorem conclude_failure (c : Call) {f : Failure} (h : f.stage ≠ .decoding) :
    c.conclude (.error f) = .error f.trouble := by
  rw [f.trouble_eq_network h, conclude]

/-- The kind of a call's result is decided by what is heard alone. If its request cannot be made, or
no reply arrives in full, nothing is heard, and the failure becomes a trouble as any other failure
does, which is never one of parsing. -/
theorem classified_by_what_is_heard (base : String) (c : Call) :
    (∀ f, c.request base = .error f → ∀ outcome,
      c.Classified none (c.result base outcome) ∧
        c.result base outcome = .error f.trouble) ∧
    ∀ request, c.request base = .ok request →
      (∀ (flight : Flight) (reply : Reply), flight.request = request →
        reply.redirect? request = none → ∃ outcome, flight.land reply = .inl outcome) ∧
      ∀ outcome heard, Exchanged request outcome heard →
        c.Classified heard (c.result base outcome) ∧
          ∀ f, outcome = .error f → c.result base outcome = .error f.trouble := by
  refine ⟨fun f hf outcome => ?_, fun request hrequest => ⟨?_, fun outcome heard h => ?_⟩⟩
  · have hresult : c.result base outcome = c.conclude (.error f) := by
      rw [result, ending, hf]
    rw [hresult]
    refine ⟨c.classified_conclude (.error f), ?_⟩
    apply c.conclude_failure
    rw [Failure.stage_of_make hf]
    decide
  · rintro flight reply rfl hstays
    obtain ⟨outcome, hland, -⟩ := Flight.heard_land hstays
    exact ⟨outcome, hland⟩
  · have hresult : c.result base outcome = c.conclude outcome := by
      rw [result, ending, hrequest]
    rw [hresult]
    refine ⟨h.heard_eq ▸ c.classified_conclude outcome, ?_⟩
    rintro f rfl
    exact c.conclude_failure h.stage_ne_decoding

/-- The endpoint of a trouble is not the path of the address that is asked. -/
example :
    endpointUrl "http://backend/api//" (popular 3).endpoint.path =
        "http://backend/api/most-popular" ∧
      (popular 3).conclude (.ok ⟨500, none, []⟩) = .error (.rejected "/most-popular" 500 "") :=
  ⟨by decide +kernel, rfl⟩

end Call

end Bistro
