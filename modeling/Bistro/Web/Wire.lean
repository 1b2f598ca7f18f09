import Bistro.Text.Blank
import Bistro.Text.Decimal
import Bistro.Text.Hex
import Bistro.Text.Utf8
import Bistro.Web.Gzip
import Bistro.Web.Message

/-!
# Messages on the wire

How messages travel: lines, the first of which says what the message is and the others its headers,
then an empty line and a body. The headers say where the body ends. Bytes that came so far are read
as a whole message or not at all.
-/

namespace Bistro

namespace Web

namespace Wire

/-- The first line, without its end, and the bytes behind it. -/
def cutLine (bytes : List UInt8) : Option (List UInt8 × List UInt8) :=
  match bytes.dropWhile (· ≠ 0x0A) with
  | [] => none
  | _ :: rest => some (dropEndWhile (· == 0x0D) (bytes.takeWhile (· ≠ 0x0A)), rest)

theorem length_of_cutLine {bytes line rest : List UInt8} (h : cutLine bytes = some (line, rest)) :
    rest.length < bytes.length := by
  unfold cutLine at h
  split at h
  · cases h
  · next b r hd =>
    simp only [Option.some.injEq, Prod.mk.injEq] at h
    have hle := (List.dropWhile_sublist (fun x : UInt8 => decide (x ≠ 0x0A)) (l := bytes)).length_le
    rw [hd, List.length_cons, h.2] at hle
    exact hle

/-- The lines up to the empty one, and the bytes behind it. -/
def cutHead (bytes : List UInt8) : Option (List (List UInt8) × List UInt8) :=
  match _h : cutLine bytes with
  | none => none
  | some (line, rest) =>
    if line.isEmpty then some ([], rest)
    else (cutHead rest).map fun (lines, body) => (line :: lines, body)
termination_by bytes.length
decreasing_by exact length_of_cutLine ‹_›

theorem length_of_cutHead {bytes rest : List UInt8} {lines : List (List UInt8)}
    (h : cutHead bytes = some (lines, rest)) : rest.length < bytes.length := by
  induction bytes using cutHead.induct generalizing lines rest with
  | case1 bytes hc =>
    rw [cutHead] at h
    split at h <;> simp_all
  | case2 bytes line after hc he =>
    have hl := length_of_cutLine hc
    rw [cutHead] at h
    split at h <;> simp_all
  | case3 bytes line after hc he ih =>
    have hl := length_of_cutLine hc
    rw [cutHead] at h
    split at h
    · simp at h
    · rename_i line' after' hc'
      rw [hc] at hc'
      obtain ⟨rfl, rfl⟩ := hc'
      rw [if_neg he] at h
      obtain ⟨⟨ls, r⟩, hr, hx⟩ := Option.map_eq_some_iff.1 h
      obtain ⟨-, rfl⟩ := Prod.mk.injEq .. ▸ hx
      exact Nat.lt_trans (ih hr) hl

/-- The name, in small letters, and the value of a header. -/
def readHeader (line : List UInt8) : String × String :=
  let text := (Utf8.read line).toList
  ((String.ofList (text.takeWhile (· ≠ ':'))).toLower,
    trim (String.ofList ((text.dropWhile (· ≠ ':')).drop 1)))

/-- What the first line says, word by word, and the headers. -/
structure Head where
  words : List String
  headers : List (String × String)
  deriving DecidableEq, Repr

def Head.header? (h : Head) (name : String) : Option String :=
  (h.headers.find? fun p => p.1 = name).map (·.2)

/-- The head of a message and the bytes behind it, if the head is all there. -/
def readHead (bytes : List UInt8) : Option (Head × List UInt8) :=
  match cutHead bytes with
  | none => none
  | some ([], rest) => some (⟨[], []⟩, rest)
  | some (first :: lines, rest) =>
    let words := ((Utf8.read first).toList.splitOn ' ').map String.ofList
    some (⟨words, lines.map readHeader⟩, rest)

theorem length_of_readHead {bytes rest : List UInt8} {head : Head}
    (h : readHead bytes = some (head, rest)) : rest.length < bytes.length := by
  unfold readHead at h
  split at h
  · simp at h
  · rename_i r hc
    obtain ⟨-, rfl⟩ := Prod.mk.injEq .. ▸ Option.some.inj h
    exact length_of_cutHead hc
  · rename_i hc
    obtain ⟨-, rfl⟩ := Prod.mk.injEq .. ▸ Option.some.inj h
    exact length_of_cutHead hc

/-! ## Bodies -/

/-- How the end of a body is found. -/
inductive Extent where
  | size (n : Nat)
  | chunks
  | untilClosed
  deriving DecidableEq, Repr

/-- A number in a head. -/
def readNumber (s : String) : Option Nat :=
  (readUInt32 s.toList).toOption.map UInt32.toNat

/-- How the end of the body is found, or `unsaid` if the headers do not tell. -/
def Head.extent (h : Head) (unsaid : Extent) : Extent :=
  if h.header? "transfer-encoding" = some "chunked" then .chunks
  else
    match (h.header? "content-length").bind readNumber with
    | some n => .size n
    | none => unsaid

/-- The size of a chunk, in front of its extensions. -/
def chunkSize (line : List UInt8) : Nat :=
  Hex.number 16 ((Utf8.read line).toList.takeWhile Hex.isDigit)

/-- A body in chunks, each behind its size; an empty one is the last. -/
def joinChunks (bytes : List UInt8) : Option (List UInt8) :=
  match _h : cutLine bytes with
  | none => none
  | some (line, rest) =>
    let n := chunkSize line
    if n = 0 then some []
    else if rest.length < n + 2 then none
    else (joinChunks (rest.drop (n + 2))).map (rest.take n ++ ·)
termination_by bytes.length
decreasing_by
  have := length_of_cutLine ‹_›
  simp only [List.length_drop]
  omega

/-- The body, if it is all there; `closed` says that nothing follows. -/
def Extent.body? (closed : Bool) (bytes : List UInt8) : Extent → Option (List UInt8)
  | .size n => if (bytes.take n).length = n then some (bytes.take n) else none
  | .chunks => joinChunks bytes
  | .untilClosed => if closed then some bytes else none

/-- The request that came, or the refusal of something that is none, if it is all there. -/
def readRequest (bytes : List UInt8) : Option (Except Response Request) :=
  match readHead bytes with
  | none => none
  | some (head, rest) =>
    match head.words with
    | [method, target, _] =>
      ((head.extent (.size 0)).body? false rest).map fun body =>
        .ok ⟨method, target, head.headers, body⟩
    | _ => some (.error (.empty 400))

/-- The words behind a status. -/
def statusText : Nat → String
  | 200 => "OK"
  | 400 => "Bad Request"
  | 404 => "Not Found"
  | 405 => "Method Not Allowed"
  | 413 => "Payload Too Large"
  | 415 => "Unsupported Media Type"
  | _ => ""

/-- The body as it is sent: compressed, if the headers say so. -/
def bodyOf (r : Response) : List UInt8 :=
  if r.headers.contains ("content-encoding", "gzip") then Gzip.pack (utf8 r.body) else utf8 r.body

/-- The response as it is sent. Nothing is sent after it. -/
def writeResponse (r : Response) : List UInt8 :=
  let body := bodyOf r
  let headers := r.headers ++
    [("content-length", Decimal.write body.length), ("connection", "close")]
  utf8 ("HTTP/1.1 " ++ Decimal.write r.status ++ " " ++ statusText r.status ++ "\r\n" ++
    String.join (headers.map fun h => h.1 ++ ": " ++ h.2 ++ "\r\n") ++ "\r\n") ++ body

end Wire

end Web

end Bistro
