import Bistro.Text.Decimal

/-!
# Settings

What the program can be told when it is started: each setting has a flag on the command line, a
variable of the environment and a default.
-/

namespace Bistro

structure Settings where
  environment : String
  backendUrl : String
  restaurantName : String
  port : UInt16
  originUrls : String
  requestTimeoutSecs : UInt64
  deriving DecidableEq, Repr

/-- How long an answer of the backend is waited for, in seconds; zero waits forever. -/
def Settings.requestTimeout (s : Settings) : Option UInt64 :=
  if s.requestTimeoutSecs = 0 then none else some s.requestTimeoutSecs

inductive Setting where
  | environment
  | backendUrl
  | restaurantName
  | port
  | originUrls
  | requestTimeoutSecs
  deriving DecidableEq, Repr

namespace Setting

/-- All settings, in the order in which they are listed and looked up in the environment. -/
def all : List Setting :=
  [.environment, .backendUrl, .restaurantName, .port, .originUrls, .requestTimeoutSecs]

/-- The name of the flag, behind its two dashes. -/
def flag : Setting → String
  | .environment => "environment"
  | .backendUrl => "backend-url"
  | .restaurantName => "restaurant-name"
  | .port => "port"
  | .originUrls => "origin-urls"
  | .requestTimeoutSecs => "request-timeout-secs"

/-- The variable of the environment, which also names the value in messages. -/
def envName : Setting → String
  | .environment => "ENVIRONMENT"
  | .backendUrl => "BACKEND_URL"
  | .restaurantName => "RESTAURANT_NAME"
  | .port => "PORT"
  | .originUrls => "ORIGIN_URLS"
  | .requestTimeoutSecs => "REQUEST_TIMEOUT_SECS"

def default : Setting → String
  | .environment => "development"
  | .backendUrl => "http://127.0.0.1:8080"
  | .restaurantName => ""
  | .port => "3000"
  | .originUrls => "http://localhost:3000"
  | .requestTimeoutSecs => "10"

/-- What the help says about the setting. -/
def about : Setting → String
  | .environment => ""
  | .backendUrl => "Base url of the restaurant backend serving `/get-detail`, `/get-review`, ..."
  | .restaurantName => "Restaurant shown when the page url does not name one"
  | .port => ""
  | .originUrls => "Comma separated list of allowed CORS origins"
  | .requestTimeoutSecs => "Per request timeout against the backend, 0 waits forever"

/-- The flag with a place for its value. -/
def usage (s : Setting) : String :=
  "--" ++ s.flag ++ " <" ++ s.envName ++ ">"

def ofFlag? (name : String) : Option Setting :=
  all.find? fun s => s.flag = name

end Setting

/-- A port: an integer of 64 bits, which then has to be one of 16. -/
def readPort (value : String) : Except String UInt16 :=
  match Decimal.read (-9223372036854775808) 9223372036854775807 value.toList with
  | .error f => .error f.message
  | .ok z =>
    if 0 ≤ z ∧ z ≤ 65535 then .ok (UInt16.ofNat z.toNat)
    else .error (Decimal.write z ++ " is not in 0..=65535")

def readSeconds (value : String) : Except String UInt64 :=
  match Decimal.read 0 18446744073709551615 value.toList with
  | .error f => .error f.message
  | .ok z => .ok (UInt64.ofNat z.toNat)

/-- The settings before anything is said about them. -/
def Settings.default : Settings where
  environment := Setting.environment.default
  backendUrl := Setting.backendUrl.default
  restaurantName := Setting.restaurantName.default
  port := 3000
  originUrls := Setting.originUrls.default
  requestTimeoutSecs := 10

/-- The settings with one of them changed to what a text says, or why the text says nothing. -/
def Settings.set (s : Settings) (setting : Setting) (value : String) : Except String Settings :=
  match setting with
  | .environment => .ok { s with environment := value }
  | .backendUrl => .ok { s with backendUrl := value }
  | .restaurantName => .ok { s with restaurantName := value }
  | .port => (readPort value).map fun port => { s with port }
  | .originUrls => .ok { s with originUrls := value }
  | .requestTimeoutSecs => (readSeconds value).map fun n => { s with requestTimeoutSecs := n }

end Bistro
