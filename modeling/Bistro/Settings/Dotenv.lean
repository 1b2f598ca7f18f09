import Bistro.Text.Alphanumeric
import Bistro.Text.Blank
import Bistro.Text.Quoted

/-!
# Files of variables

A file may name variables for the environment, one `NAME=value` a line, with comments, quotes,
escapes and references to other variables. The first line that is not understood ends the reading;
the lines before it count.
-/

namespace Bistro

namespace Dotenv

/-- Variables by name, a later one before an earlier one of the same name. -/
abbrev Variables := List (String × String)

def get (vars : Variables) (name : String) : Option String :=
  (vars.find? fun v => v.1 = name).map (·.2)

/-- What a reference to a variable is in the middle of. -/
inductive Reference where
  | none
  | plain
  | braced
  deriving DecidableEq, Repr

/-- The way through a value: what is read so far and what the next character is part of. -/
structure Walk where
  out : List Char
  strong : Bool
  weak : Bool
  escaped : Bool
  ending : Bool
  comment : Bool
  reference : Reference
  name : List Char

def Walk.start : Walk :=
  ⟨[], false, false, false, false, false, .none, []⟩

def Walk.push (w : Walk) (c : Char) : Walk :=
  { w with out := c :: w.out }

/-- Puts the value of the variable that was named in its place. -/
def Walk.substitute (value : String → String) (w : Walk) : Walk :=
  { w with out := (value (String.ofList w.name.reverse)).toList.reverse ++ w.out, name := [],
           reference := .none }

def Walk.escape (w : Walk) (c : Char) : Option Walk :=
  let w' := { w with escaped := false }
  if ['\\', '\'', '"', '$', ' '].contains c then some (w'.push c)
  else if c = 'n' then some (w'.push '\n')
  else none

/-- A character within a reference. Letters and digits of all scripts belong to the name. -/
def Walk.refer (value : String → String) (w : Walk) (c : Char) : Walk :=
  if isAlphanumeric c then { w with name := c :: w.name }
  else if w.reference = .braced then
    if c = '\x7d' then w.substitute value else { w with name := c :: w.name }
  else if c = '\x7b' ∧ w.name.isEmpty then { w with reference := .braced }
  else
    let done := w.substitute value
    if c = '$' then { done with reference := .plain } else done.push c

/-- A character outside of everything. -/
def Walk.open (w : Walk) (c : Char) : Walk :=
  if c = '\'' then { w with strong := true }
  else if c = '"' then { w with weak := true }
  else if c = '\\' then { w with escaped := true }
  else if c = ' ' ∨ c = '\t' then { w with ending := true }
  else w.push c

def Walk.next (value : String → String) (w : Walk) (c : Char) : Option Walk :=
  if w.comment then some w
  else if w.ending then
    if c = ' ' ∨ c = '\t' then some w
    else if c = '#' then some { w with comment := true }
    else none
  else if w.escaped then w.escape c
  else if w.strong then some (if c = '\'' then { w with strong := false } else w.push c)
  else if w.reference ≠ .none then some (w.refer value c)
  else if c = '$' then some { w with reference := .plain }
  else if w.weak then
    some (if c = '"' then { w with weak := false }
      else if c = '\\' then { w with escaped := true } else w.push c)
  else some (w.open c)

/-- The value that a text stands for. -/
def readValue (value : String → String) (s : List Char) : Option String :=
  match s.foldlM (Walk.next value) .start with
  | none => none
  | some w =>
    if w.reference = .braced || w.strong || w.weak then none
    else some (String.ofList (w.substitute value).out.reverse)

def isNameStart (c : Char) : Bool :=
  c.isAlpha || c == '_'

def isNameChar (c : Char) : Bool :=
  c.isAlphanum || c == '_' || c == '.'

def readName (s : List Char) : Option (String × List Char) :=
  match s with
  | c :: _ =>
    if isNameStart c then
      some (String.ofList (s.takeWhile isNameChar), (s.dropWhile isNameChar).dropWhile isBlank)
    else none
  | [] => none

/-- A line: a variable, or nothing. Blanks at its ends do not count. -/
def readLine (value : String → String) (line : String) : Option (Option (String × String)) :=
  let s := trimChars line.toList
  let isEmpty (r : List Char) : Bool := r.isEmpty || r.head? == some '#'
  let assigned (name : String) (r : List Char) : Option (Option (String × String)) :=
    match r with
    | '=' :: rest =>
      let text := rest.dropWhile isBlank
      if isEmpty text then some (some (name, ""))
      else (readValue value text).map fun v => some (name, v)
    | _ => none
  if isEmpty s then some none
  else
    match readName s with
    | none => none
    | some (name, '=' :: rest) => assigned name ('=' :: rest)
    | some (name, rest) =>
      if name = "export" then (readName rest).bind fun (other, r) => assigned other r else none

/-- A variable that cannot be set, because there is a null character in its value. -/
structure Unsettable where
  name : String
  value : String
  deriving DecidableEq, Repr

def Unsettable.message (u : Unsettable) : String :=
  "failed to set environment variable `" ++ quoted u.name ++ "` to `" ++ quoted u.value ++
    "`: file name contained an unexpected NUL byte"

/-- Sets a variable, unless it is set already. -/
def set (environment : Variables) (name value : String) : Except Unsettable Variables :=
  if (get environment name).isSome then .ok environment
  else if value.toList.contains '\x00' then .error ⟨name, value⟩
  else .ok ((name, value) :: environment)

/-- The environment after the lines of a file were read into it: a variable that is set already
stays, but what the file says of it is what later lines refer to, unless the environment says
otherwise. -/
def load (environment stored : Variables) : List String → Except Unsettable Variables
  | [] => .ok environment
  | line :: rest =>
    let value (name : String) : String :=
      ((get environment name).or (get stored name)).getD ""
    match readLine value line with
    | none => .ok environment
    | some none => load environment stored rest
    | some (some (name, v)) =>
      (set environment name v).bind fun environment' => load environment' ((name, v) :: stored) rest

/-- The environment after the text of a file was read into it. -/
def loadText (environment : Variables) (text : String) : Except Unsettable Variables :=
  let lines := (text.toList.splitOn '\n').map fun line =>
    String.ofList (if line.getLast? = some '\r' then line.dropLast else line)
  load environment [] lines

end Dotenv

end Bistro
