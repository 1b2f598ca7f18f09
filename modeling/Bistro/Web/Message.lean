/-!
# Messages of the web

Requests as they come from a browser and the responses to them. Names of headers are in small
letters.
-/

namespace Bistro

namespace Web

structure Request where
  method : String
  target : String
  headers : List (String × String)
  body : List UInt8

structure Response where
  status : Nat
  headers : List (String × String)
  body : String
  deriving DecidableEq, Repr

/-- The first header of a name. -/
def Request.header? (r : Request) (name : String) : Option String :=
  (r.headers.find? fun h => h.1.toLower = name).map (·.2)

/-- What is asked for without scheme and host, which may stand in front, and without a fragment. -/
def localTarget (target : String) : List Char :=
  let s := target.toList.takeWhile (· ≠ '#')
  let isScheme (c : Char) : Bool := c.isAlphanum || c == '+' || c == '-' || c == '.'
  match s.span isScheme with
  | (_ :: _, ':' :: '/' :: '/' :: rest) => rest.dropWhile fun c => c ≠ '/' && c ≠ '?'
  | _ => s

def Request.path (r : Request) : String :=
  let p := (localTarget r.target).takeWhile (· ≠ '?')
  if p.isEmpty then "/" else String.ofList p

/-- The text behind the question mark. -/
def Request.query (r : Request) : String :=
  String.ofList (((localTarget r.target).dropWhile (· ≠ '?')).drop 1)

namespace Response

def empty (status : Nat) : Response :=
  ⟨status, [], ""⟩

def text (status : Nat) (body : String) : Response :=
  ⟨status, [("content-type", "text/plain; charset=utf-8")], body⟩

def html (status : Nat) (body : String) : Response :=
  ⟨status, [("content-type", "text/html; charset=utf-8")], body⟩

/-- The response as a request gets it: without its body, if only the head was asked for. -/
def answering (response : Response) (request : Request) : Response :=
  if request.method = "HEAD" then { response with body := "" } else response

end Response

end Web

end Bistro
