import Bistro.Settings.Basic
import Bistro.Text.ControlSequence

/-!
# The command line

A setting is given as `--flag value` or `--flag=value`, at most once. What the command line leaves
open is looked up in the environment, and what is open then has its default. A value is checked when
the next argument shows that it is complete; an argument that is not known is reported before that.
-/

namespace Bistro

namespace CommandLine

/-- What stops the program before it starts. -/
inductive Problem where
  | unknownArgument (argument : String)
  | missingValue (setting : Setting)
  | repeated (setting : Setting)
  | invalidValue (setting : Setting) (value reason : String)
  | unexpectedValue (value flag : String)
  | help
  deriving DecidableEq, Repr

/-- The variables of the environment that are set. -/
abbrev Environment := List (String × String)

def lookup (environment : Environment) (name : String) : Option String :=
  (environment.find? fun v => v.1 = name).map (·.2)

/-- What the arguments said so far: the settings, those of them that were given, the flag whose
value is not checked yet with the value if it is there, and whether only values may follow. -/
structure Scan where
  settings : Settings
  given : List Setting
  pending : Option (Setting × Option String)
  trailing : Bool

def Scan.start : Scan :=
  ⟨.default, [], none, false⟩

/-- Gives a value to a setting. -/
def Scan.assign (s : Scan) (setting : Setting) (value : String) : Except Problem Scan :=
  if s.given.contains setting then .error (.repeated setting)
  else
    match s.settings.set setting value with
    | .ok settings => .ok { s with settings, given := setting :: s.given }
    | .error reason => .error (.invalidValue setting value reason)

/-- Checks what is pending. -/
def Scan.resolve (s : Scan) : Except Problem Scan :=
  match s.pending with
  | none => .ok s
  | some (setting, none) => .error (.missingValue setting)
  | some (setting, some value) => { s with pending := none }.assign setting value

/-- The name of a long flag and the value behind its equals sign. -/
def splitFlag (body : List Char) : String × Option String :=
  match body.span (· ≠ '=') with
  | (name, '=' :: value) => (String.ofList name, some (String.ofList value))
  | (name, _) => (String.ofList name, none)

/-- An argument with two dashes. -/
def Scan.long (s : Scan) (body : List Char) : Except Problem Scan :=
  match splitFlag body with
  | ("help", some value) => .error (.unexpectedValue value "--help")
  | ("help", none) => s.resolve.bind fun _ => .error .help
  | (name, value) =>
    match Setting.ofFlag? name with
    | none => .error (.unknownArgument ("--" ++ name))
    | some setting =>
      s.resolve.bind fun s' =>
        match value with
        | some v => s'.assign setting v
        | none => .ok { s' with pending := some (setting, none) }

/-- An argument with one dash and a letter. -/
def Scan.short (s : Scan) (letter : Char) : Except Problem Scan :=
  if letter = 'h' then s.resolve.bind fun _ => .error .help
  else .error (.unknownArgument (String.ofList ['-', letter]))

/-- Any other argument: a value, where a flag waits for one. -/
def Scan.plain (s : Scan) (argument : String) : Except Problem Scan :=
  match s.pending with
  | some (setting, none) => .ok { s with pending := some (setting, some argument) }
  | _ => .error (.unknownArgument argument)

def Scan.next (s : Scan) (argument : String) : Except Problem Scan :=
  if s.trailing then .error (.unknownArgument argument)
  else
    match argument.toList with
    | ['-', '-'] => .ok { s with trailing := true }
    | '-' :: '-' :: body => s.long body
    | '-' :: letter :: _ => s.short letter
    | _ => s.plain argument

/-- Takes a setting from the environment, unless it was given. -/
def Scan.lookUp (environment : Environment) (s : Scan) (setting : Setting) : Except Problem Scan :=
  if s.given.contains setting then .ok s
  else
    match lookup environment setting.envName with
    | some value => s.assign setting value
    | none => .ok s

/-- The settings that the arguments and the environment say. -/
def parse (arguments : List String) (environment : Environment) : Except Problem Settings := do
  let scanned ← arguments.foldlM Scan.next .start
  let resolved ← scanned.resolve
  let complete ← Setting.all.foldlM (Scan.lookUp environment) resolved
  return complete.settings

/-! ## Messages

Messages and the help are written for a terminal, with their words in styles, and then reduced to
what is shown. Since a style ends with an escape, it also ends a control sequence that a value in it
leaves open. -/

/-- Words in a style, which is given by its codes. -/
def styled (codes words : String) : String :=
  "\x1b[" ++ codes ++ words ++ "\x1b[0m"

def heading (words : String) : String :=
  styled "1m\x1b[4m" words

/-- What is typed as it stands. -/
def literal (words : String) : String :=
  styled "1m" words

def alarm (words : String) : String :=
  styled "1m\x1b[31m" words

/-- What should not have been typed. -/
def invalid (words : String) : String :=
  styled "33m" words

def Problem.message : Problem → String
  | .unknownArgument argument => "unexpected argument '" ++ invalid argument ++ "' found"
  | .missingValue setting =>
    "a value is required for '" ++ invalid setting.usage ++ "' but none was supplied"
  | .repeated setting =>
    "the argument '" ++ invalid setting.usage ++ "' cannot be used multiple times"
  | .invalidValue setting value reason =>
    "invalid value '" ++ invalid value ++ "' for '" ++ literal setting.usage ++ "': " ++ reason
  | .unexpectedValue value flag =>
    "unexpected value '" ++ invalid value ++ "' for '" ++ literal flag ++
      "' found; no more were expected"
  | .help => ""

/-- Further lines of a text stand under its first one. -/
def indented (s : String) : String :=
  String.ofList (s.toList.flatMap fun c => if c = '\n' then '\n' :: List.replicate 10 ' ' else [c])

/-- The entry of a setting in the help. -/
def settingHelp (environment : Environment) (setting : Setting) : String :=
  let value := (lookup environment setting.envName).getD ""
  let initial := if setting.default = "" then "\"\"" else setting.default
  let text :=
    (if setting.about = "" then "" else setting.about ++ " ") ++
      "[env: " ++ setting.envName ++ "=" ++ value ++ "] [default: " ++ initial ++ "]"
  "      " ++ literal ("--" ++ setting.flag) ++ " <" ++ setting.envName ++ ">\n          " ++
    indented text ++ "\n"

def helpText (environment : Environment) : String :=
  plainText <|
    heading "Usage:" ++ " " ++ literal "restaurant-page" ++ " [OPTIONS]\n\n" ++
      heading "Options:" ++ "\n" ++
      String.join (Setting.all.map (settingHelp environment)) ++
      "  " ++ literal "-h" ++ ", " ++ literal "--help" ++ "\n          Print help\n"

/-- The first line of what is printed about a problem that is not a call for help. -/
def Problem.headline (p : Problem) : String :=
  let line := (plainText (alarm "error:" ++ " " ++ p.message)).toList.takeWhile (· ≠ '\n')
  String.ofList (if line.getLast? = some '\r' then line.dropLast else line)

end CommandLine

end Bistro
