import Bistro.Json.Token

/-!
# Reading JSON values

Any value is read with all its parts, down to a number of levels of lists and objects. The loops
over items and members are shared by everything that reads lists and objects: they take what to do
with one item or member and carry a state along.
-/

namespace Bistro

namespace Json

/-- Reads the items of a list behind its opening bracket. Each round takes at least one character,
so that the length of the text suffices for `fuel`. -/
def readItemsWith (item : σ → Reader σ) : (fuel : Nat) → (first : Bool) → σ → Reader σ
  | 0, _, _, s => .error (.on .endInList s)
  | fuel + 1, first, state, s =>
    match nextItem first s with
    | .error e => .error e
    | .ok none => (closeList s).map fun rest => (state, rest)
    | .ok (some s') =>
      match item state s' with
      | .error e => .error e
      | .ok (state', rest) => readItemsWith item fuel false state' rest

/-- Reads the members of an object behind its opening brace up to its closing one, which stays. The
reader of a member begins behind the name. -/
def readMembersWith (member : σ → String → Reader σ) :
    (fuel : Nat) → (first : Bool) → σ → Reader σ
  | 0, _, _, s => .error (.on .endInObject s)
  | fuel + 1, first, state, s =>
    match nextName first s with
    | .error e => .error e
    | .ok none => .ok (state, s)
    | .ok (some s') =>
      match readText s' with
      | .error e => .error e
      | .ok (name, s'') =>
        match member state name s'' with
        | .error e => .error e
        | .ok (state', rest) => readMembersWith member fuel false state' rest

/-- Items read one after the other, all by the same reader. -/
def readItems (item : Reader α) : Reader (List α) := fun s =>
  let next (done : List α) : Reader (List α) := fun r =>
    (item r).map fun x => (x.1 :: done, x.2)
  (readItemsWith next (s.length + 1) true [] s).map fun x => (x.1.reverse, x.2)

/-- The value of a member, behind its name. -/
def readMemberValue (value : Reader α) : Reader α := fun s =>
  (readColon s).bind value

/-- Members read one after the other, all their values by the same reader, with the closing brace.
-/
def readMembers (value : Reader α) : Reader (List (String × α)) := fun s =>
  match readMembersWith
    (fun done name r => (readMemberValue value r).map fun x => ((name, x.1) :: done, x.2))
    (s.length + 1) true [] s with
  | .error e => .error e
  | .ok (done, rest) => (closeObject rest).map fun r => (done.reverse, r)

/-- Reads a value whose parts are read by `inner`, or whose level allows no parts. -/
def readWith (inner : Option (Reader Json)) : Reader Json := fun s =>
  match skipSpaces s with
  | [] => .error (.on .endInValue [])
  | 'n' :: rest => (readWord ['u', 'l', 'l'] rest).map fun r => (.null, r)
  | 't' :: rest => (readWord ['r', 'u', 'e'] rest).map fun r => (.boolean true, r)
  | 'f' :: rest => (readWord ['a', 'l', 's', 'e'] rest).map fun r => (.boolean false, r)
  | '"' :: rest => (readText rest).map fun x => (.text x.1, x.2)
  | '[' :: rest =>
    match inner with
    | none => .error (.on .tooDeep ('[' :: rest))
    | some value => (readItems value rest).map fun x => (.list x.1, x.2)
  | '\x7b' :: rest =>
    match inner with
    | none => .error (.on .tooDeep ('\x7b' :: rest))
    | some value => (readMembers value rest).map fun x => (.object x.1, x.2)
  | c :: rest =>
    if c = '-' ∨ Decimal.isDigit c then (readNumber (c :: rest)).map fun x => (.number x.1, x.2)
    else .error (.on .expectedValue (c :: rest))

/-- Reads a value with at most that many levels of lists and objects. -/
def readValue : (levels : Nat) → Reader Json
  | 0 => readWith none
  | levels + 1 => readWith (some (readValue levels))

/-- How many levels of lists and objects a text may have. -/
def maxLevels : Nat := 127

/-- Ends a text: behind the value only blanks may follow. -/
def finish (text rest : List Char) (a : α) : Except ReadError α :=
  match skipSpaces rest with
  | [] => .ok a
  | r => .error ((Fault.on .trailingCharacters r).inText text)

/-- Reads a whole text, blanks around the value included. -/
def readAll (read : Reader α) (text : String) : Except ReadError α :=
  let s := text.toList
  match read s with
  | .error e => .error (e.inText s)
  | .ok (a, rest) => finish s rest a

/-- Reads a text as a JSON value. -/
def read (text : String) : Except ReadError Json :=
  readAll (readValue maxLevels) text

end Json

end Bistro
