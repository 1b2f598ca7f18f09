import Bistro.Backend.Reply
import Bistro.Web.Wire

/-!
# Exchanges on the wire

How a request is sent to a backend, on a connection of its own, and how what comes back is read. A
connection that is closed too early makes a reply that did not arrive in full, and so does one that
is silent for too long. Redirects are followed as soon as the head of the reply is there.
-/

namespace Bistro

/-- The port that is asked. -/
def Url.port (url : Url) : Nat :=
  ((url.authority.bind (·.port)).or (Url.usualPort url.scheme)).getD 80

/-- The name of the server that is asked, with its port if that is not the usual one. -/
def Url.place (url : Url) : String :=
  match url.authority with
  | some a => String.ofList (Url.authorityChars { a with user := [] })
  | none => ""

/-- The request as it is sent. -/
def Request.wire (r : Request) : String :=
  r.method.name ++ " " ++ r.url.target ++ " HTTP/1.1\r\naccept: */*\r\nhost: " ++ r.url.place ++
    "\r\n" ++ (if r.method = .post then "content-length: 0\r\n" else "") ++
    "connection: close\r\n\r\n"

/-- The reply that came, if it is all there or nothing follows. What only announces a reply is
passed over. -/
def Reply.read (closed : Bool) (bytes : List UInt8) : Option Reply :=
  match _ : Web.Wire.readHead bytes with
  | none => if closed then some .dropped else none
  | some (head, rest) =>
    match (head.words.drop 1).head?.bind Web.Wire.readNumber with
    | none => some .dropped
    | some status =>
      let reply (body : List UInt8) (fate : Fate) : Reply :=
        ⟨status, head.header? "content-type", head.header? "location", body, fate⟩
      if isInterim status then Reply.read closed rest
      else if isBare status then some (reply [] .whole)
      else
        match (head.extent .untilClosed).body? closed rest with
        | some body => some (reply body .whole)
        | none => if closed then some (reply rest .truncated) else none
termination_by bytes.length
decreasing_by exact Web.Wire.length_of_readHead ‹_›

/-- The reply whose head is there, with as much of its body as came. -/
def Reply.begun (bytes : List UInt8) : Option Reply :=
  (Reply.read true bytes).filter fun reply => reply.fate ≠ .dropped

/-- What a flight comes to with the bytes that came, if no more of them are needed. -/
def Flight.hear (flight : Flight) (closed : Bool) (bytes : List UInt8) :
    Option (Outcome ⊕ Flight) :=
  match Reply.read closed bytes with
  | some reply => some (flight.land reply)
  | none =>
    match Reply.begun bytes with
    | some reply =>
      if (reply.redirect? flight.request).isSome then some (flight.land reply) else none
    | none => none

/-- The failure of a flight that is given up for want of time, by the bytes that came. -/
def Flight.late (flight : Flight) (bytes : List UInt8) : Failure :=
  if (Reply.begun bytes).isSome then ⟨.receiving, none, .timedOut⟩
  else ⟨.sending, some flight.request.url, .timedOut⟩

end Bistro
