import Bistro.Text.Decimal
import Bistro.Url.Urlencoded
import Bistro.Web.Message

/-!
# Queries and posted forms

A page takes at most one parameter from its query. Other parameters are passed over; the same one
twice is a fault. Of the controls of a posted form the last one of a name counts, and the form has
to say that it is one and may not be too long.
-/

namespace Bistro

namespace Web

/-- Why a query is not understood. -/
inductive QueryFault where
  | missing (name : String)
  | duplicate (name : String)
  | number (f : Decimal.Fault)
  deriving DecidableEq, Repr

def QueryFault.message : QueryFault → String
  | .missing name => "missing field `" ++ name ++ "`"
  | .duplicate name => "duplicate field `" ++ name ++ "`"
  | .number f => f.message

def QueryFault.response (f : QueryFault) : Response :=
  .text 400 ("Failed to deserialize query string: " ++ f.message)

/-- The values of a parameter in the query. -/
def Request.parameter (r : Request) (name : String) : List String :=
  ((Urlencoded.decode (utf8 r.query)).filter fun p => p.1 = name).map (·.2)

/-- A text that may be left out. -/
def Request.optionalText (r : Request) (name : String) : Except QueryFault (Option String) :=
  match r.parameter name with
  | [] => .ok none
  | [v] => .ok (some v)
  | _ => .error (.duplicate name)

def Request.requiredText (r : Request) (name : String) : Except QueryFault String :=
  match r.parameter name with
  | [] => .error (.missing name)
  | [v] => .ok v
  | _ => .error (.duplicate name)

/-- A number, which is read before it is found to come twice. -/
def Request.requiredNumber (r : Request) (name : String) : Except QueryFault UInt32 :=
  match r.parameter name with
  | [] => .error (.missing name)
  | v :: more =>
    match readUInt32 v.toList with
    | .error f => .error (.number f)
    | .ok n => if more.isEmpty then .ok n else .error (.duplicate name)

/-- Why a posted form is not taken. -/
inductive FormFault where
  | wrongType
  | tooLong
  deriving DecidableEq, Repr

def FormFault.response : FormFault → Response
  | .wrongType =>
    .text 415 "Form requests must have `Content-Type: application/x-www-form-urlencoded`"
  | .tooLong => .text 413 "Failed to buffer the request body: length limit exceeded"

def formType : String := "application/x-www-form-urlencoded"

/-- How many bytes a posted form may have. -/
def maxFormSize : Nat := 2097152

/-- Whether a content type says that the body is a form: it begins so and is plain ASCII. -/
def isFormType (type : String) : Bool :=
  formType.toList.isPrefixOf type.toList &&
    type.toList.all fun c => c == '\t' || (0x20 ≤ c.toNat && c.toNat < 0x7F)

/-- The controls of the form in the body. -/
def Request.form (r : Request) : Except FormFault (List (String × String)) :=
  match r.header? "content-type" with
  | none => .error .wrongType
  | some type =>
    if isFormType type then
      if maxFormSize < r.body.length then .error .tooLong
      else .ok (Urlencoded.decode r.body)
    else .error .wrongType

end Web

end Bistro
