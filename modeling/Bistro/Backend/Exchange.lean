import Bistro.Json.Fault
import Bistro.Text.Charset
import Bistro.Url.Basic

/-!
# Exchanges with the backend

A request, the answer to it, and why there may be none. An exchange is over when redirects have been
followed and the whole body is there.
-/

namespace Bistro

/-- Reads are GET requests, writes are POST requests. -/
inductive Method where
  | get
  | post
  deriving DecidableEq, Repr

def Method.name : Method → String
  | .get => "GET"
  | .post => "POST"

structure Request where
  method : Method
  url : Url
  deriving DecidableEq, Repr

/-- An answer that arrived in full. -/
structure Answer where
  status : Nat
  contentType : Option String
  body : List UInt8
  deriving DecidableEq, Repr

def Answer.text (a : Answer) : String :=
  readBody a.contentType a.body

/-- How far an exchange got. -/
inductive Stage where
  | building
  | sending
  | redirecting
  | receiving
  | decoding
  deriving DecidableEq, Repr

def Stage.message : Stage → String
  | .building => "builder error"
  | .sending => "error sending request"
  | .redirecting => "error following redirect"
  | .receiving => "request or response body error"
  | .decoding => "error decoding response body"

/-- Why an exchange failed. -/
inductive Reason where
  | badUrl (e : UrlError)
  | badScheme
  | noUri
  | noTls
  | noRoute
  | unknownHost
  | noSuchHost
  | refused
  | timedOut
  | closed
  | tooManyRedirects
  | cutShort
  | unreadable (e : Json.ReadError)
  deriving Repr

def Reason.message : Reason → String
  | .badUrl e => e.message
  | .badScheme => "URL scheme is not allowed"
  | .noUri => "Parsed Url is not a valid Uri"
  | .noTls => "error trying to connect: invalid URL, scheme is not http"
  | .noRoute => "error trying to connect: tcp connect error: Network is unreachable (os error 101)"
  | .unknownHost =>
    "error trying to connect: dns error: failed to lookup address information: " ++
      "Temporary failure in name resolution"
  | .noSuchHost =>
    "error trying to connect: dns error: failed to lookup address information: " ++
      "Name or service not known"
  | .refused => "error trying to connect: tcp connect error: Connection refused (os error 111)"
  | .timedOut => "operation timed out"
  | .closed => "connection closed before message completed"
  | .tooManyRedirects => "too many redirects"
  | .cutShort =>
    "error reading a body from connection: end of file before message length reached"
  | .unreadable e => e.message

/-- A failed exchange, with the address at which it failed, where that is known. -/
structure Failure where
  stage : Stage
  url : Option Url
  reason : Reason
  deriving Repr

def Failure.message (f : Failure) : String :=
  f.stage.message ++
    (match f.url with
      | some url => " for url (" ++ url.write ++ ")"
      | none => "") ++
    ": " ++ f.reason.message

/-- How an exchange ended. -/
abbrev Outcome := Except Failure Answer

/-- The request for an address with pairs in its query. Only http and https can be asked, and only
at addresses that are URIs; addresses without a host are refused before the query is built. -/
def Request.make (method : Method) (address : String) (pairs : List (String × String)) :
    Except Failure Request :=
  match Url.parse address with
  | .error e => .error ⟨.building, none, .badUrl e⟩
  | .ok parsed =>
    if parsed.host?.isNone then .error ⟨.building, some parsed, .badScheme⟩
    else
      let plain := parsed.withoutUser
      let url := if pairs.isEmpty then plain else plain.addPairs pairs
      if url.scheme ≠ "http" ∧ url.scheme ≠ "https" then .error ⟨.building, some url, .badScheme⟩
      else if url.isUri then .ok ⟨method, url⟩
      else .error ⟨.building, some url, .noUri⟩

/-- A backend, or whatever is at its address: it is given the requests that are under way together,
and the outcome of each of them, by its place among them, may depend on all of them and on what the
backend went through before. -/
structure Backend (σ : Type) where
  exchange : σ → List Request → (Nat → Outcome) × σ

/-- Nothing is reached: there is no route to any address, and no name server to ask for names. -/
def unreached (request : Request) : Failure :=
  let reason : Reason :=
    if request.url.scheme ≠ "http" then .noTls
    else
      match request.url.host? with
      | some (.name name) => if Host.canBeFound name then .unknownHost else .noSuchHost
      | _ => .noRoute
  ⟨.sending, some request.url, reason⟩

/-- A machine without a network. -/
def offline (σ : Type) : Backend σ where
  exchange state requests :=
    (fun i => match requests[i]? with
      | some request => .error (unreached request)
      | none => .error ⟨.sending, none, .noRoute⟩, state)

end Bistro
