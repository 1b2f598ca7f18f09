import Bistro.Page.Log
import Bistro.Service.Origins
import Bistro.Service.Pages
import Bistro.Settings.Basic

/-!
# The site

The service as it is started with its settings: its pages, granted to the configured origins and
compressed for those who accept it, and a page for addresses that are none of its own. Starting
warns of origins that it cannot use, and stops if the wildcard is among them or the port is taken.
-/

namespace Bistro

structure Site where
  service : Service
  origins : Origins
  deriving DecidableEq, Repr

namespace Site

/-- The page for addresses that nothing is at. -/
def missing : Web.Response :=
  .html 404 <|
    "<!DOCTYPE html><html><body><p>Nothing to eat here.</p>" ++
      "<a href=\"/\">Back to the restaurant</a></body></html>"

/-- The weight of an accepted encoding, in thousandths. -/
def weight (parameter : List Char) : Nat :=
  match parameter.filter (· ≠ ' ') with
  | 'q' :: '=' :: '0' :: '.' :: digits =>
    (digits ++ ['0', '0', '0']).take 3 |>.foldl (fun n c => n * 10 + Decimal.digitValue c) 0
  | 'q' :: '=' :: '0' :: _ => 0
  | _ => 1000

/-- The name and the weight of each encoding that is accepted. -/
def acceptedEncodings (header : String) : List (String × Nat) :=
  (header.toList.splitOn ',').filterMap fun piece =>
    match piece.splitOn ';' with
    | name :: rest => some ((trim (String.ofList name)).toLower, weight (rest.headD []))
    | [] => none

/-- Whether compression is wanted: it outweighs the plain text. -/
def wantsGzip (request : Web.Request) : Bool :=
  match request.header? "accept-encoding" with
  | none => false
  | some header =>
    let weightOf (names : List String) : Nat :=
      (((acceptedEncodings header).filter fun e => names.contains e.1).map (·.2)).foldl max 0
    let gzip := weightOf ["gzip", "x-gzip"]
    0 < gzip && weightOf ["identity"] ≤ gzip

/-- The size from which bodies are compressed. -/
def compressedFrom : Nat := 32

/-- Says that the body is compressed, if it is. -/
def compress (request : Web.Request) (response : Web.Response) : Web.Response :=
  if wantsGzip request ∧ compressedFrom ≤ response.body.utf8ByteSize then
    { response with headers := ("content-encoding", "gzip") :: response.headers }
  else response

/-- What the layers around the pages make of a response. -/
def dress (site : Site) (request : Web.Request) (response : Web.Response) : Web.Response :=
  let compressed := compress request (response.answering request)
  { compressed with headers := compressed.headers ++ site.origins.headers request }

/-- What a request asks for: a page to be made, or a response right away. -/
def plan (site : Site) (request : Web.Request) : Except Web.Response PagePlan :=
  match Route.ofPath? request.path with
  | none => .error (missing.answering request)
  | some _ =>
    if request.method = "OPTIONS" then .error (site.origins.preflight request)
    else (site.service.plan request).mapError (site.dress request)

/-- Answers a request. -/
def respond (site : Site) (backend : Backend σ) (request : Web.Request) (state : σ) : Served σ :=
  match site.plan request with
  | .error response => ⟨response, [], state⟩
  | .ok plan =>
    let done := plan.run backend site.service.backendUrl state
    ⟨site.dress request (plan.response done.document), done.events, done.state⟩

end Site

/-- Why the program breaks off instead of listening. -/
inductive Crash where
  | wildcardOrigin
  | portTaken (port : UInt16)
  deriving DecidableEq, Repr

def listenAddress (port : UInt16) : String :=
  "0.0.0.0:" ++ Decimal.write port.toNat

def Crash.message : Crash → String
  | .wildcardOrigin =>
    "Wildcard origin (`*`) cannot be passed to `AllowOrigin::list`. " ++
      "Use `AllowOrigin::any()` instead"
  | .portTaken port =>
    "error binding to " ++ listenAddress port ++
      ": error creating server listener: Address already in use (os error 98)"

/-- A start: what it logs, and the site or why there is none. -/
structure Launch where
  entries : List Entry
  site : Except Crash Site
  deriving Repr

/-- Starts with the settings, on a machine where the port is taken or not. -/
def launch (settings : Settings) (portTaken : Bool) : Launch :=
  let warnings := (ignoredOrigins settings.originUrls).map fun piece =>
    Entry.message .warn
      ("Ignoring invalid origin url " ++ piece ++ " due to: failed to parse header value")
  let origins := listedOrigins settings.originUrls
  if origins.contains "*" then ⟨warnings, .error .wildcardOrigin⟩
  else
    let listening := Entry.message .info <|
      "Restaurant page listening on port: " ++ listenAddress settings.port ++ " (" ++
        settings.environment ++ "), backend at " ++ settings.backendUrl
    ⟨warnings ++ [listening],
      if portTaken then .error (.portTaken settings.port)
      else .ok ⟨⟨settings.backendUrl, settings.restaurantName⟩, origins⟩⟩

end Bistro
