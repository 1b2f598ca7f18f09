import Bistro.Text.Hex
import Bistro.Url.Domain

/-!
# Hosts

The host of an address: a domain name, an address of four bytes or one of eight pieces. A name whose
last label is a number has to be an address of four bytes.
-/

namespace Bistro

/-- Why a text is no address. -/
inductive UrlError where
  | emptyHost
  | invalidDomain
  | invalidPort
  | invalidIpv4
  | invalidIpv6
  | invalidHostCharacter
  | relativeWithoutBase
  | relativeToRootless
  deriving DecidableEq, Repr

def UrlError.message : UrlError → String
  | .emptyHost => "empty host"
  | .invalidDomain => "invalid international domain name"
  | .invalidPort => "invalid port number"
  | .invalidIpv4 => "invalid IPv4 address"
  | .invalidIpv6 => "invalid IPv6 address"
  | .invalidHostCharacter => "invalid domain character"
  | .relativeWithoutBase => "relative URL without a base"
  | .relativeToRootless => "relative URL with a cannot-be-a-base base"

inductive Host where
  | name (s : String)
  | ipv4 (address : Nat)
  | ipv6 (pieces : List Nat)
  deriving DecidableEq, Repr

namespace Host

/-- A part of such an address: decimal, octal behind a zero, or hexadecimal behind `0x`. -/
def ipv4Part (s : List Char) : Option Nat :=
  let (base, digits) : Nat × List Char := match s with
    | '0' :: 'x' :: rest => (16, rest)
    | '0' :: 'X' :: rest => (16, rest)
    | '0' :: d :: rest => (8, d :: rest)
    | _ => (10, s)
  let fits (c : Char) : Bool :=
    if base = 16 then Hex.isDigit c
    else if base = 8 then '0' ≤ c && c ≤ '7'
    else Decimal.isDigit c
  if s.isEmpty || !digits.all fits then none else some (Hex.number base digits)

/-- The parts between the dots, without an empty one behind the last dot. -/
def dotted (s : List Char) : List (List Char) :=
  let parts := s.splitOn '.'
  if parts.getLast? = some [] then parts.dropLast else parts

def endsInNumber (s : List Char) : Bool :=
  match (dotted s).getLast? with
  | some last => !last.isEmpty && (last.all Decimal.isDigit || (ipv4Part last).isSome)
  | none => false

/-- The address: the last part fills all the bytes that the others leave. -/
def parseIpv4 (s : List Char) : Except UrlError Host :=
  match (dotted s).mapM ipv4Part with
  | none => .error .invalidIpv4
  | some numbers =>
    match numbers.reverse with
    | [] => .error .invalidIpv4
    | last :: others =>
      let free := 4 - others.length
      if 3 < others.length || Nat.pow 256 free ≤ last || others.any (255 < ·) then
        .error .invalidIpv4
      else
        let high := others.reverse.foldl (fun n part => n * 256 + part) 0
        .ok (.ipv4 (high * Nat.pow 256 free + last))

/-- Four decimal bytes without leading zeros, as two pieces. -/
def ipv4Pieces (s : List Char) : Option (List Nat) :=
  let part (digits : List Char) : Option Nat :=
    let plain := digits.length = 1 || digits.head? ≠ some '0'
    if !digits.isEmpty && digits.length ≤ 3 && digits.all Decimal.isDigit && plain &&
        Hex.number 10 digits ≤ 255 then
      some (Hex.number 10 digits)
    else none
  match (s.splitOn '.').mapM part with
  | some [a, b, c, d] => some [a * 256 + b, c * 256 + d]
  | _ => none

def ipv6Piece (s : List Char) : Option (List Nat) :=
  if !s.isEmpty && s.length ≤ 4 && s.all Hex.isDigit then some [Hex.number 16 s] else none

/-- Pieces between colons; the last of them may be four decimal bytes. -/
def ipv6Pieces : List (List Char) → Option (List Nat)
  | [] => some []
  | [last] => if last.contains '.' then ipv4Pieces last else ipv6Piece last
  | s :: rest => do
    let piece ← ipv6Piece s
    let pieces ← ipv6Pieces rest
    return piece ++ pieces

/-- Splits at the first double colon. -/
def splitDouble : List Char → Option (List Char × List Char)
  | ':' :: ':' :: rest => some ([], rest)
  | c :: rest => (splitDouble rest).map fun x => (c :: x.1, x.2)
  | [] => none

def piecesOf (s : List Char) : Option (List Nat) :=
  if s.isEmpty then some [] else ipv6Pieces (s.splitOn ':')

/-- Eight pieces, or fewer around a double colon, which stands for zeros. -/
def parseIpv6 (s : List Char) : Except UrlError Host :=
  let pieces : Option (List Nat) := match splitDouble s with
    | none => do
      let all ← ipv6Pieces (s.splitOn ':')
      if all.length = 8 then some all else none
    | some (front, back) => do
      let before ← if front.contains '.' then none else piecesOf front
      let after ← piecesOf back
      let count := before.length + after.length
      if count ≤ 7 then some (before ++ List.replicate (8 - count) 0 ++ after) else none
  match pieces with
  | some all => .ok (.ipv6 all)
  | none => .error .invalidIpv6

def bracketed (s : List Char) : Except UrlError Host :=
  if s.getLast? = some ']' then parseIpv6 (s.drop 1).dropLast else .error .invalidIpv6

/-- The host of an address of a special scheme. -/
def parse (s : List Char) : Except UrlError Host :=
  if s.head? = some '[' then bracketed s
  else
    match Domain.toAscii (Utf8.read (Percent.decode (utf8 (String.ofList s)))).toList with
    | none => .error .invalidDomain
    | some ascii =>
      if ascii.isEmpty then .error .emptyHost
      else if endsInNumber ascii then parseIpv4 ascii
      else .ok (.name (String.ofList ascii))

/-- The host of any other address, which is not looked into. -/
def parsePlain (s : List Char) : Except UrlError Host :=
  if s.head? = some '[' then bracketed s
  else if s.any fun c =>
      c != '%' && !(Percent.isControl c && c != '\x00') && Domain.isForbidden c then
    .error .invalidHostCharacter
  else .ok (.name (String.ofList (Percent.encode Percent.isControl s)))

/-- The start and the length of the first longest run of at least two zeros. -/
def zeroRun (pieces : List Nat) : Option (Nat × Nat) :=
  let runs := (List.range 8).map fun i => (i, ((pieces.drop i).takeWhile (· == 0)).length)
  let best := runs.foldl (fun (b : Nat × Nat) r => if b.2 < r.2 then r else b) (0, 1)
  if 2 ≤ best.2 then some best else none

def hexPieces (pieces : List Nat) : List Char :=
  List.intercalate [':'] (pieces.map (Nat.toDigits 16))

def chars : Host → List Char
  | .name s => s.toList
  | .ipv4 n =>
    let bytes := [n / 16777216, n / 65536 % 256, n / 256 % 256, n % 256]
    List.intercalate ['.'] (bytes.map Decimal.digits)
  | .ipv6 pieces =>
    '[' :: (match zeroRun pieces with
      | some (start, length) =>
        hexPieces (pieces.take start) ++ [':', ':'] ++ hexPieces (pieces.drop (start + length))
      | none => hexPieces pieces) ++ [']']

/-- Whether the host has to be looked up by its name. -/
def isName : Host → Bool
  | .name _ => true
  | _ => false

/-- Whether a name is one that could be found: labels of up to 63 letters, digits, hyphens and
underscores, 253 characters with the dots between them, and no hyphen in front. A dot may end it. -/
def canBeFound (name : String) : Bool :=
  let s := name.toList
  let whole := if s.getLast? = some '.' then s.dropLast else s
  let isLabel (l : List Char) : Bool :=
    !l.isEmpty && l.length ≤ 63 && l.all fun c => c.isAlphanum || c == '-' || c == '_'
  whole.isEmpty || (whole.length ≤ 253 && whole.head? ≠ some '-' && (whole.splitOn '.').all isLabel)

end Host

end Bistro
