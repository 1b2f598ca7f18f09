import Bistro.Backend.Reply

/-!
# Scripted backends

A backend that answers by the path that is asked. A reply may be held until some path was asked for.
Requests that are under way together go in rounds: whatever is not held is answered, redirects are
followed, and once everything that is left is held in vain, it is answered all the same.
-/

namespace Bistro

/-- A reply, and the path that has to be asked for before it is given. -/
structure Cue where
  reply : Reply
  after : Option String
  deriving DecidableEq, Repr

/-- A request that arrived. -/
structure Arrival where
  method : Method
  path : String
  target : String
  deriving DecidableEq, Repr

def Arrival.line (a : Arrival) : String :=
  a.method.name ++ " " ++ a.target

/-- The cues by path, and where the backend listens. -/
structure Script where
  host : Host
  port : Nat
  cues : List (String × Cue)
  deriving DecidableEq, Repr

namespace Script

def cue (script : Script) (path : String) : Cue :=
  match script.cues.find? fun c => c.1 = path with
  | some c => c.2
  | none => ⟨.text 404 "no such endpoint", none⟩

def listensAt (script : Script) (url : Url) : Bool :=
  url.scheme == "http" && url.host? == some script.host &&
    (url.authority.bind (·.port)).getD 80 == script.port

/-- The request as it arrives, if the backend is the one that is asked. -/
def arrival? (script : Script) (request : Request) : Option Arrival :=
  if script.listensAt request.url then
    some ⟨request.method, request.url.pathText, request.url.target⟩
  else none

def arrivalsOf (script : Script) (flights : List Flight) : List Arrival :=
  flights.filterMap fun f => script.arrival? f.request

/-- Nobody else listens anywhere. -/
def missed (request : Request) : Failure :=
  match request.url.host? with
  | some host =>
    if host.isName ∨ request.url.scheme ≠ "http" then unreached request
    else ⟨.sending, some request.url, .refused⟩
  | none => unreached request

/-- Whether the reply to a request waits for another request. -/
def holds (script : Script) (arrived : List Arrival) (request : Request) : Bool :=
  script.listensAt request.url &&
    match (script.cue request.url.pathText).after with
    | some path => !arrived.any fun a => a.path == path
    | none => false

/-- One flight that is not held. -/
def land (script : Script) (flight : Flight) : Outcome ⊕ Flight :=
  if script.listensAt flight.request.url then
    flight.land (script.cue flight.request.url.pathText).reply
  else .inl (.error (missed flight.request))

/-- Goes on in rounds until every flight has its outcome; each round of a flight is a redirect more,
or its last. -/
def settle (script : Script) : (fuel : Nat) → List Flight → List Arrival → List (Nat × Outcome) →
    List (Nat × Outcome) × List Arrival
  | 0, _, arrived, done => (done, arrived)
  | fuel + 1, flights, arrived, done =>
    if flights.isEmpty then (done, arrived)
    else
      let (held, free) := flights.partition fun f => script.holds arrived f.request
      if free.isEmpty then
        (held.map (fun f => (f.place, .ok ⟨504, none, utf8 "held too long"⟩)) ++ done, arrived)
      else
        let landed := free.map fun f => (f.place, script.land f)
        let ended := landed.filterMap fun (place, r) => match r with
          | .inl outcome => some (place, outcome)
          | .inr _ => none
        let going := landed.filterMap fun (_, r) => match r with
          | .inl _ => none
          | .inr flight => some flight
        settle script fuel (held ++ going) (arrived ++ script.arrivalsOf going) (ended ++ done)

/-- The backend that follows the script; it goes through the requests that have arrived. -/
def backend (script : Script) : Backend (List Arrival) where
  exchange arrived requests :=
    let flights := requests.mapIdx fun i request => (⟨i, request, 0⟩ : Flight)
    let (done, arrived') :=
      script.settle (11 * requests.length + 1) flights (arrived ++ script.arrivalsOf flights) []
    (fun i => match done.find? fun d => d.1 = i with
      | some d => d.2
      | none => .error ⟨.sending, none, .closed⟩, arrived')

end Script

end Bistro
