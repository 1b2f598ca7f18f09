import Bistro.Json.Printer
import Bistro.Text.Quoted

/-!
# Faults of JSON texts

Why a text is not read, where the fault lies, and how both are said. Places are counted in bytes:
the line by its newlines, the column from the last of them.
-/

namespace Bistro

namespace Json

/-- What was found where something else was expected. -/
inductive Found where
  | null
  | boolean (b : Bool)
  | number (n : Number)
  | text (s : String)
  | list
  | object
  deriving Repr

def Found.message : Found → String
  | .null => "null"
  | .boolean true => "boolean `true`"
  | .boolean false => "boolean `false`"
  | .number (.integer z) => "integer `" ++ Decimal.write z ++ "`"
  | .number (.double d) => "floating point `" ++ String.ofList d.chars ++ "`"
  | .text s => "string " ++ quoted s
  | .list => "sequence"
  | .object => "map"

/-- Why a text is not read. -/
inductive Cause where
  | endInList
  | endInObject
  | endInText
  | endInValue
  | expectedColon
  | expectedListComma
  | expectedObjectComma
  | expectedWord
  | expectedValue
  | invalidEscape
  | invalidNumber
  | numberOutOfRange
  | controlCharacter
  | keyNotText
  | loneSurrogate
  | trailingComma
  | trailingCharacters
  | unfinishedEscape
  | tooDeep
  | wrongType (found : Found) (expected : String)
  | wrongValue (found : Found) (expected : String)
  | wrongLength (length : Nat) (record : String) (size : Nat)
  | missingField (name : String)
  | duplicateField (name : String)
  | noVariant (union : String)
  deriving Repr

/-- The kinds of causes: the text is no JSON, it does not fit the model, or it ends too early. -/
inductive Kind where
  | grammar
  | data
  | ending
  deriving DecidableEq, Repr

def Cause.kind : Cause → Kind
  | .endInList | .endInObject | .endInText | .endInValue => .ending
  | .wrongType .. | .wrongValue .. | .wrongLength .. | .missingField _ | .duplicateField _
  | .noVariant _ => .data
  | _ => .grammar

def Cause.message : Cause → String
  | .endInList => "EOF while parsing a list"
  | .endInObject => "EOF while parsing an object"
  | .endInText => "EOF while parsing a string"
  | .endInValue => "EOF while parsing a value"
  | .expectedColon => "expected `:`"
  | .expectedListComma => "expected `,` or `]`"
  | .expectedObjectComma => "expected `,` or `\x7d`"
  | .expectedWord => "expected ident"
  | .expectedValue => "expected value"
  | .invalidEscape => "invalid escape"
  | .invalidNumber => "invalid number"
  | .numberOutOfRange => "number out of range"
  | .controlCharacter => "control character (\\u0000-\\u001F) found while parsing a string"
  | .keyNotText => "key must be a string"
  | .loneSurrogate => "lone leading surrogate in hex escape"
  | .trailingComma => "trailing comma"
  | .trailingCharacters => "trailing characters"
  | .unfinishedEscape => "unexpected end of hex escape"
  | .tooDeep => "recursion limit exceeded"
  | .wrongType found expected => "invalid type: " ++ found.message ++ ", expected " ++ expected
  | .wrongValue found expected => "invalid value: " ++ found.message ++ ", expected " ++ expected
  | .wrongLength length record size =>
    "invalid length " ++ Decimal.write length ++ ", expected struct " ++ record ++ " with " ++
      Decimal.write size ++ (if size = 1 then " element" else " elements")
  | .missingField name => "missing field `" ++ name ++ "`"
  | .duplicateField name => "duplicate field `" ++ name ++ "`"
  | .noVariant union => "data did not match any variant of untagged enum " ++ union

/-- The number of bytes of a text. -/
def byteSize (s : List Char) : Nat :=
  s.foldl (fun n c => n + c.utf8Size) 0

/-- A fault while reading, placed by the number of bytes behind it. -/
structure Fault where
  cause : Cause
  left : Nat
  deriving Repr

/-- A fault in front of `rest`. -/
def Fault.before (cause : Cause) (rest : List Char) : Fault :=
  ⟨cause, byteSize rest⟩

/-- A fault at the first byte of `rest`, or at the end of the text. -/
def Fault.on (cause : Cause) (rest : List Char) : Fault :=
  ⟨cause, byteSize rest - 1⟩

/-- A line and a column. -/
structure Place where
  line : Nat
  column : Nat
  deriving DecidableEq, Repr

/-- The place behind the first `offset` bytes of a text. -/
def placeOf (offset : Nat) (text : List Char) : Place :=
  let walked := text.foldl (fun (w : Nat × Nat × Nat) c =>
    let (index, line, start) := w
    if c = '\n' ∧ index < offset then (index + 1, line + 1, index + 1)
    else (index + c.utf8Size, line, start)) (0, 1, 0)
  ⟨walked.2.1, offset - walked.2.2⟩

/-- Why a whole text is not read. Only a value that fits no variant has no place. -/
structure ReadError where
  cause : Cause
  place : Option Place
  deriving Repr

def ReadError.message (e : ReadError) : String :=
  match e.place with
  | none => e.cause.message
  | some p =>
    e.cause.message ++ " at line " ++ Decimal.write p.line ++ " column " ++ Decimal.write p.column

def Fault.inText (f : Fault) (text : List Char) : ReadError :=
  ⟨f.cause, some (placeOf (byteSize text - f.left) text)⟩

end Json

end Bistro
