import Bistro.Number.Binary64

/-!
# JSON values

Values as a text writes them: the members of an object stand in the order of the text, and a name
may come twice. `Json.tidy` is the value such a text stands for where only the last member of a name
counts and the order does not.
-/

namespace Bistro

/-- A number: an integer that 64 bits hold, with or without a sign, or a double. -/
inductive Number where
  | integer (z : Int)
  | double (d : Binary64)
  deriving DecidableEq, Repr

inductive Json where
  | null
  | boolean (b : Bool)
  | number (n : Number)
  | text (s : String)
  | list (items : List Json)
  | object (members : List (String × Json))
  deriving Repr

/-- Puts a member at the place of its name in members that are sorted by name; a member of that name
gives way to it. Names are ordered by their code points, which is also the order of their bytes. -/
def putMember (name : String) (value : α) : List (String × α) → List (String × α)
  | [] => [(name, value)]
  | (n, v) :: rest =>
    if name < n then (name, value) :: (n, v) :: rest
    else if name = n then (name, value) :: rest
    else (n, v) :: putMember name value rest

/-- The members sorted by name, the last one of each name only. -/
def sortMembers (members : List (String × α)) : List (String × α) :=
  members.foldl (fun sorted m => putMember m.1 m.2 sorted) []

namespace Json

mutual

/-- The value with the members of every object sorted, the last one of each name only. -/
def tidy : Json → Json
  | .null => .null
  | .boolean b => .boolean b
  | .number n => .number n
  | .text s => .text s
  | .list items => .list (tidyItems items)
  | .object members => .object (sortMembers (tidyMembers members))

def tidyItems : List Json → List Json
  | [] => []
  | v :: rest => v.tidy :: tidyItems rest

def tidyMembers : List (String × Json) → List (String × Json)
  | [] => []
  | (name, v) :: rest => (name, v.tidy) :: tidyMembers rest

end

end Json

end Bistro
