import Bistro.Backend.Exchange

/-!
# Replies

What a server sends back for one request, before redirects are followed. It may not arrive in full,
and it may send the client elsewhere. A flight is a request on its way through redirects: each reply
ends it or sends it on.
-/

namespace Bistro

/-- What becomes of a reply on its way. -/
inductive Fate where
  | whole
  | dropped
  | truncated
  deriving DecidableEq, Repr

structure Reply where
  status : Nat
  contentType : Option String
  location : Option String
  body : List UInt8
  fate : Fate
  deriving DecidableEq, Repr

def Reply.text (status : Nat) (body : String) : Reply :=
  ⟨status, none, none, utf8 body, .whole⟩

/-- The reply of a server that closes the connection without one. -/
def Reply.dropped : Reply :=
  ⟨0, none, none, [], .dropped⟩

/-- Whether a status only announces the reply, which is still to come. -/
def isInterim (status : Nat) : Bool :=
  100 ≤ status && status < 200 && status != 101

/-- Whether replies of a status have no body. -/
def isBare (status : Nat) : Bool :=
  status == 101 || status == 204 || status == 304

/-- The method after a redirect, if the status is one. -/
def redirected (status : Nat) (method : Method) : Option Method :=
  if status = 301 ∨ status = 302 ∨ status = 303 then some .get
  else if status = 307 ∨ status = 308 then some method
  else none

/-- Where a reply sends the client, and with which method. An address that is no URI is not gone to.
-/
def Reply.redirect? (reply : Reply) (request : Request) : Option Request := do
  let method ← redirected reply.status request.method
  let location ← reply.location
  let url ← (request.url.join location).toOption.filter Url.isUri
  return ⟨method, url⟩

/-- A request under way: its place among those that were made together, and how many redirects
brought it here. -/
structure Flight where
  place : Nat
  request : Request
  hops : Nat
  deriving DecidableEq, Repr

/-- How many redirects are followed. -/
def maxHops : Nat := 9

/-- What a reply comes to: the end of the flight, or its next request. -/
def Flight.land (flight : Flight) (reply : Reply) : Outcome ⊕ Flight :=
  let request := flight.request
  if reply.fate = .dropped ∨ isInterim reply.status then
    .inl (.error ⟨.sending, some request.url, .closed⟩)
  else
    match reply.redirect? request with
    | some next =>
      if flight.hops < maxHops then .inr { flight with request := next, hops := flight.hops + 1 }
      else .inl (.error ⟨.redirecting, some request.url, .tooManyRedirects⟩)
    | none =>
      if isBare reply.status then .inl (.ok ⟨reply.status, reply.contentType, []⟩)
      else if reply.fate = .truncated then .inl (.error ⟨.receiving, none, .cutShort⟩)
      else .inl (.ok ⟨reply.status, reply.contentType, reply.body⟩)

end Bistro
