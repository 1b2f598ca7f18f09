import Bistro.Json.Scalar
import Bistro.Json.Skip

/-!
# Shapes of models

A shape says how a model is written in JSON: as a text, a truth value, a 32-bit integer, a list, or
a record of named fields. `Shape.read` reads a model from a text and says where the text departs
from the shape, `Shape.fit` takes a model from a value, and `Shape.json` writes it.

A record is written as an object. It is also read from a list that gives the fields in their order.
Members with other names are skipped, a field that comes twice is a fault, and a field that is
absent is empty unless it is required.
-/

namespace Bistro

mutual

inductive Shape where
  | text
  | boolean
  | integer
  | list (item : Shape)
  | record (name : String) (fields : Fields)

/-- The fields of a record, in their order. -/
inductive Fields where
  | nil
  | cons (name : String) (required : Bool) (shape : Shape) (rest : Fields)

end

mutual

/-- The values of a shape. -/
def Shape.Value : Shape → Type
  | .text => String
  | .boolean => Bool
  | .integer => Int32
  | .list item => List item.Value
  | .record _ fields => fields.Row

/-- A value for each field. -/
def Fields.Row : Fields → Type
  | .nil => Unit
  | .cons _ _ shape rest => shape.Value × rest.Row

end

/-- A value for some of the fields. -/
def Fields.Slots : Fields → Type
  | .nil => Unit
  | .cons _ _ shape rest => Option shape.Value × rest.Slots

mutual

/-- The value of an absent field. -/
def Shape.empty : (shape : Shape) → shape.Value
  | .text => ""
  | .boolean => false
  | .integer => (0 : Int32)
  | .list _ => ([] : List _)
  | .record _ fields => fields.emptyRow

def Fields.emptyRow : (fields : Fields) → fields.Row
  | .nil => ()
  | .cons _ _ shape rest => (shape.empty, rest.emptyRow)

end

namespace Fields

def noSlots : (fields : Fields) → fields.Slots
  | .nil => ()
  | .cons _ _ _ rest => (none, rest.noSlots)

def size : Fields → Nat
  | .nil => 0
  | .cons _ _ _ rest => rest.size + 1

def names : Fields → List String
  | .nil => []
  | .cons name _ _ rest => name :: rest.names

/-- The row of the slots, or the name of the first required field without a value. -/
def complete : (fields : Fields) → fields.Slots → Except String fields.Row
  | .nil, _ => .ok ()
  | .cons name required shape rest, (slot, slots) =>
    match slot with
    | some v => (rest.complete slots).map fun row => (v, row)
    | none =>
      if required then .error name
      else (rest.complete slots).map fun row => (shape.empty, row)

end Fields

open Json (Reader Fault skipSpaces nextItem closeList closeObject readColon)

mutual

/-- Reads a value of a shape with at most that many levels of lists and records. -/
def Shape.read : (shape : Shape) → (levels : Nat) → Reader shape.Value
  | .text, _ => Json.readTextValue
  | .boolean, _ => Json.readBoolean
  | .integer, _ => Json.readInt32Value
  | .list item, levels => fun s =>
    match skipSpaces s with
    | '[' :: rest =>
      if levels = 0 then .error (.on .tooDeep ('[' :: rest))
      else Json.readItems (item.read (levels - 1)) rest
    | r => .error (Json.wrongTypeFault "a sequence" r)
  | .record name fields, levels => fun s =>
    match skipSpaces s with
    | '[' :: rest =>
      if levels = 0 then .error (.on .tooDeep ('[' :: rest))
      else
        match fields.readRow (levels - 1) name fields.size 0 rest with
        | .error e => .error e
        | .ok (row, r) => (closeList r).map fun r' => (row, r')
    | '\x7b' :: rest =>
      if levels = 0 then .error (.on .tooDeep ('\x7b' :: rest))
      else
        match Json.readMembersWith
          (fun slots field r =>
            (fields.readMember (levels - 1) slots field r).getD
              (((readColon r).bind Json.skipValue).map fun r' => (slots, r')))
          (rest.length + 1) true fields.noSlots rest with
        | .error e => .error e
        | .ok (slots, r) =>
          match fields.complete slots with
          | .error field => .error (.behind '\x7d' (.missingField field) r)
          | .ok row => (closeObject r).map fun r' => (row, r')
    | r => .error (Json.wrongTypeFault ("struct " ++ name) r)

/-- Reads the value of a member behind its name, unless no field has this name. -/
def Fields.readMember : (fields : Fields) → (levels : Nat) → fields.Slots → String → List Char →
    Option (Except Fault (fields.Slots × List Char))
  | .nil, _, _, _, _ => none
  | .cons name _ shape rest, levels, (slot, slots), field, s =>
    if field = name then
      match slot with
      | some _ => some (.error (.behind '\x7d' (.duplicateField name) s))
      | none =>
        some (((readColon s).bind (shape.read levels)).map fun x => ((some x.1, slots), x.2))
    else
      (rest.readMember levels slots field s).map fun r => r.map fun x => ((slot, x.1), x.2)

/-- Reads the fields of the record `name` of `size` fields from a list, `index` being the number of
those already read. -/
def Fields.readRow : (fields : Fields) → (levels : Nat) → (name : String) → (size index : Nat) →
    Reader fields.Row
  | .nil, _, _, _, _ => fun s => .ok ((), s)
  | .cons _ required shape rest, levels, name, size, index => fun s =>
    match nextItem (index == 0) s with
    | .error e => .error e
    | .ok none =>
      if required then .error (.behind ']' (.wrongLength index name size) s)
      else
        (rest.readRow levels name size index s).map fun x => ((shape.empty, x.1), x.2)
    | .ok (some s') =>
      match shape.read levels s' with
      | .error e => .error e
      | .ok (v, s'') =>
        (rest.readRow levels name size (index + 1) s'').map fun x => ((v, x.1), x.2)

end

mutual

/-- Takes a value of a shape from a JSON value. -/
def Shape.fit : (shape : Shape) → Json → Option shape.Value
  | .text, v => match v with
    | .text s => some s
    | _ => none
  | .boolean, v => match v with
    | .boolean b => some b
    | _ => none
  | .integer, v => match v with
    | .number (.integer z) =>
      if -2147483648 ≤ z ∧ z ≤ 2147483647 then some (Int32.ofInt z) else none
    | _ => none
  | .list item, v => match v with
    | .list items => items.mapM item.fit
    | _ => none
  | .record _ fields, v => match v with
    | .object members => fields.fitMembers members
    | .list items => fields.fitItems items
    | _ => none

/-- Takes each field from the one member of its name. -/
def Fields.fitMembers : (fields : Fields) → List (String × Json) → Option fields.Row
  | .nil, _ => some ()
  | .cons name required shape rest, members => do
    let v ← match members.filter fun m => m.1 = name with
      | [] => if required then none else some shape.empty
      | [m] => shape.fit m.2
      | _ => none
    let row ← rest.fitMembers members
    return (v, row)

/-- Takes the fields from the items in their order. -/
def Fields.fitItems : (fields : Fields) → List Json → Option fields.Row
  | .nil, items => if items.isEmpty then some () else none
  | .cons _ required shape rest, items => do
    let v ← match items with
      | [] => if required then none else some shape.empty
      | item :: _ => shape.fit item
    let row ← rest.fitItems items.tail
    return (v, row)

end

mutual

/-- The JSON value of a value of a shape. -/
def Shape.json : (shape : Shape) → shape.Value → Json
  | .text, s => .text s
  | .boolean, b => .boolean b
  | .integer, z => .number (.integer (Int32.toInt z))
  | .list item, items => .list (List.map item.json items)
  | .record _ fields, row => .object (fields.members row)

/-- The members of a record, in the order of its fields. -/
def Fields.members : (fields : Fields) → fields.Row → List (String × Json)
  | .nil, _ => []
  | .cons name _ shape rest, (v, row) => (name, shape.json v) :: rest.members row

end

end Bistro
