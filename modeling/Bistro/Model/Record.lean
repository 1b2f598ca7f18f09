import Bistro.Json.Shape

/-!
# Models that are records

A model that is written in JSON as a record of a shape, and nothing else, is read and written by way
of that shape.
-/

namespace Bistro

/-- A model and its row of fields. -/
class Record (α : Type) where
  shape : Shape
  ofValue : shape.Value → α
  toValue : α → shape.Value

namespace Record

variable {α : Type} [Record α]

/-- Reads the model from a text. -/
def read (text : String) : Except Json.ReadError α :=
  (Json.readAll (Shape.read (shape α) Json.maxLevels) text).map ofValue

/-- Takes the model from a JSON value. -/
def fit (v : Json) : Option α :=
  (Shape.fit (shape α) v).map ofValue

def json (a : α) : Json :=
  Shape.json (shape α) (toValue a)

/-- The model as compact JSON. -/
def write (a : α) : String :=
  (json a).write

end Record

end Bistro
