import Bistro.Backend.Exchange
import Bistro.Json.Scalar
import Bistro.Page.Trouble

/-!
# Probing an address

An address is asked for a number in JSON. Whatever the status, the body has to be that number; where
it is not, the trouble is one of parsing, at the path of the address that the failure names.
-/

namespace Bistro

/-- The number in the body of an outcome. -/
def probedNumber (outcome : Outcome) : Except Failure UInt32 :=
  match outcome with
  | .error f => .error f
  | .ok a =>
    match Json.readAll Json.readUInt32Value (Utf8.read a.body) with
    | .ok n => .ok n
    | .error e => .error ⟨.decoding, none, .unreadable e⟩

/-- The failure, said to be at another address. -/
def Failure.atUrl (f : Failure) (url : Url) : Failure :=
  { f with url := some url }

/-- The trouble that a failure makes. -/
def Failure.trouble (f : Failure) : Trouble :=
  if f.stage = .decoding then
    .parse ((f.url.map Url.pathText).getD "") f.message
  else .network f.message

/-- Asks an address for a number. -/
def probe (backend : Backend σ) (state : σ) (address : String) : Except Failure UInt32 :=
  match Request.make .get address [] with
  | .error f => .error f
  | .ok request => probedNumber ((backend.exchange state [request]).1 0)

end Bistro
