import Bistro.Backend.Wire
import Bistro.Service.Site
import Bistro.Settings.CommandLine
import Bistro.Settings.Dotenv
import Bistro.Web.Wire
import Std.Async.DNS
import Std.Async.TCP
import Std.Async.Timer

/-!
# The program

Reads the settings from the command line, the environment and a file of variables, and serves the
pages until it is stopped. Connections are read and written here, and nothing is decided.
-/

namespace Bistro

namespace Program

open Std.Async Std.Net

/-- The moment, in milliseconds of the system's clock, after which nothing is waited for. -/
abbrev Limit := Option Nat

/-- The limit of the requests that are made now. -/
def limit (settings : Settings) : Async Limit := do
  match settings.requestTimeout with
  | none => return none
  | some seconds => return some ((← IO.monoMsNow) + min seconds.toNat 1000000000 * 1000)

/-- The result of some work, if it is there in time. The work itself is not broken off. -/
def Limit.await (limit : Limit) (work : Async α) : Async (Option α) := do
  match limit with
  | none => return some (← work)
  | some moment =>
    let now ← IO.monoMsNow
    if moment ≤ now then return none
    let late : Async (Option α) := do
      sleep (.ofNat (moment - now))
      return none
    Async.raceAll #[some <$> work, late]

/-- The bytes that come next, if they come in time: none when the connection is closed. -/
def next (limit : Limit) (client : TCP.Socket.Client) : Async (Option (Option ByteArray)) := do
  match limit with
  | none => return some (← client.recv? 65536)
  | some moment =>
    let now ← IO.monoMsNow
    if moment ≤ now then return none
    let late ← Selector.sleep (.ofNat (moment - now))
    Selectable.one #[
      .case (client.recvSelector 65536) fun more => return some more,
      .case late fun _ => return none]

/-- The address of a host, if it has one. -/
def addressOf (host : Host) (port : UInt16) : Async (Option SocketAddress) := do
  let v4 (address : IPv4Addr) : SocketAddress := .v4 ⟨address, port⟩
  let v6 (address : IPv6Addr) : SocketAddress := .v6 ⟨address, port⟩
  match host with
  | .ipv4 n =>
    let part (i : Nat) : UInt8 := UInt8.ofNat (n / Nat.pow 256 i)
    return some (v4 (.ofParts (part 3) (part 2) (part 1) (part 0)))
  | .ipv6 pieces =>
    let part (i : Nat) : UInt16 := UInt16.ofNat (pieces.getD i 0)
    return some <| v6 <|
      .ofParts (part 0) (part 1) (part 2) (part 3) (part 4) (part 5) (part 6) (part 7)
  | .name name =>
    match (← DNS.getAddrInfo name "").toList with
    | .v4 address :: _ => return some (v4 address)
    | .v6 address :: _ => return some (v6 address)
    | [] => return none

/-! ## The backend -/

/-- Why a connection was not made. The system numbers its errors below zero, and `101` is the one
that says that no route leads to the address. -/
def unconnected : IO.Error → Reason
  | .noSuchThing _ code _ => if code + 101 = 0 then .noRoute else .refused
  | _ => .refused

/-- The connection for a request. -/
def connect (request : Request) : Async (Except Failure TCP.Socket.Client) := do
  let failed (reason : Reason) : Except Failure TCP.Socket.Client :=
    .error ⟨.sending, some request.url, reason⟩
  match request.url.host? with
  | none => return .error (unreached request)
  | some host =>
    if request.url.scheme ≠ "http" then return .error (unreached request)
    let address ← try addressOf host (UInt16.ofNat request.url.port) catch _ => pure none
    match address with
    | none => return failed .unknownHost
    | some address =>
      let client ← TCP.Socket.Client.mk
      try
        client.connect address
        return .ok client
      catch e => return failed (unconnected e)

/-- What comes back on the connection of a flight. A connection that breaks is closed. -/
partial def hear (limit : Limit) (client : TCP.Socket.Client) (flight : Flight)
    (bytes : List UInt8) : Async (Outcome ⊕ Flight) := do
  let came ← try next limit client catch _ => pure (some none)
  match came with
  | none => return .inl (.error (flight.late bytes))
  | some more =>
    let bytes := bytes ++ (more.map ByteArray.toList).getD []
    match flight.hear more.isNone bytes with
    | some landed => return landed
    | none => hear limit client flight bytes

/-- A request on its way through redirects. Once the time is over nothing is sent: a connection that
is made too late is not used. -/
partial def fly (limit : Limit) (flight : Flight) : Async Outcome := do
  match ← limit.await (connect flight.request) with
  | none => return .error (flight.late [])
  | some (.error f) => return .error f
  | some (.ok client) =>
    let landed ← try
        match ← limit.await (client.send flight.request.wire.toUTF8) with
        | none => pure (.inl (.error (flight.late [])))
        | some _ => hear limit client flight []
      catch _ => pure (.inl (.error ⟨.sending, some flight.request.url, .closed⟩))
    match landed with
    | .inl outcome => return outcome
    | .inr next => fly limit next

/-- A step, all of whose requests are made at once. -/
def take (settings : Settings) (trace : Trace) (step : Step) : Async Trace := do
  let requests := step.requests settings.backendUrl
  let limit ← limit settings
  let outcomes ← Async.concurrentlyAll
    (requests.map fun request => fly limit ⟨0, request, 0⟩).toArray
  let outcomeAt (i : Nat) : Outcome :=
    outcomes.getD i (.error ⟨.sending, none, .closed⟩)
  return step.finish settings.backendUrl outcomeAt trace

def report (entry : Entry) : IO Unit := do
  match entry with
  | .message .debug _ => return
  | .message level text => IO.println (level.name ++ " " ++ text)
  | .call level handler input error =>
    IO.println (level.name ++ " " ++ handler ++ " " ++ input ++ " " ++ error)
  (← IO.getStdout).flush

def answer (settings : Settings) (site : Site) (request : Web.Request) : Async Web.Response := do
  match site.plan request with
  | .error response => return response
  | .ok plan =>
    let trace ← plan.steps.foldlM (take settings) .fresh
    trace.events.forM fun event => report event.entry
    return site.dress request (plan.response trace.document)

/-- Reads a request from a connection, if one comes. -/
partial def receive (client : TCP.Socket.Client) (bytes : List UInt8) :
    Async (Option (Except Web.Response Web.Request)) := do
  match Web.Wire.readRequest bytes with
  | some read => return some read
  | none =>
    match ← client.recv? 65536 with
    | some more => receive client (bytes ++ more.toList)
    | none => return none

/-- One connection: a request and its response. -/
def serve (settings : Settings) (site : Site) (client : TCP.Socket.Client) : Async Unit := do
  match ← receive client [] with
  | none => return
  | some read =>
    let response ← match read with
      | .ok request => answer settings site request
      | .error response => pure response
    client.send ⟨(Web.Wire.writeResponse response).toArray⟩
    client.shutdown

partial def accept (settings : Settings) (site : Site) (server : TCP.Socket.Server) :
    Async Unit := do
  let client ← server.accept
  background do
    try serve settings site client catch _ => return
  accept settings site server

/-! ## The start -/

/-- The variables of the environment that settings are looked up in. -/
def environment : IO CommandLine.Environment := do
  let values ← Setting.all.mapM fun s => do return (s.envName, ← IO.getEnv s.envName)
  return values.filterMap fun (name, value) => value.map fun v => (name, v)

/-- The text of the file of variables in this directory or the nearest one above it. -/
def findVariables : Nat → String → IO (Option String)
  | 0, _ => return none
  | n + 1, directory => do
    try return some (← IO.FS.readFile (directory ++ ".env"))
    catch _ => findVariables n (directory ++ "../")

/-- Listens at the port, if it is free. -/
def listen (port : UInt16) : IO (Option TCP.Socket.Server) := do
  try
    let server ← TCP.Socket.Server.mk
    server.bind (.v4 ⟨.ofParts 0 0 0 0, port⟩)
    server.listen 1024
    return some server
  catch _ => return none

/-- The end of a program that cannot go on. -/
def stop (message : String) : IO UInt32 := do
  IO.eprintln ("the program stopped:\n" ++ message)
  return 101

def start (settings : Settings) : IO UInt32 := do
  let launched := launch settings false
  launched.entries.forM report
  match launched.site with
  | .error crash => stop crash.message
  | .ok site =>
    match ← listen settings.port with
    | none => stop (Crash.portTaken settings.port).message
    | some server =>
      (accept settings site server).block
      return 0

end Program

end Bistro

open Bistro in
def main (arguments : List String) : IO UInt32 := do
  let set ← Program.environment
  let above := (← IO.currentDir).components.length
  let loaded := match ← Program.findVariables (above + 1) "" with
    | some text => Dotenv.loadText set text
    | none => .ok set
  match loaded with
  | .error unsettable => Program.stop unsettable.message
  | .ok environment =>
    match CommandLine.parse arguments environment with
    | .ok settings => Program.start settings
    | .error .help =>
      IO.print (CommandLine.helpText environment)
      return 0
    | .error problem =>
      IO.eprintln (problem.headline ++ "\n\nFor more information, try '--help'.")
      return 2
