import Bistro.Url.Host
import Bistro.Url.Urlencoded

/-!
# Addresses

An address is taken apart into its scheme, the authority with the host, the path, the query and the
fragment. The parts are kept in their encoded form, so that writing an address only joins them.
-/

namespace Bistro

/-- Who is asked: the credentials, the host and the port, if it is not the usual one. -/
structure Authority where
  user : List Char
  host : Host
  port : Option Nat
  deriving DecidableEq, Repr

/-- The path: segments behind slashes, or a text that is no path of segments. -/
inductive UrlPath where
  | rootless (text : List Char)
  | segments (parts : List (List Char))
  deriving DecidableEq, Repr

structure Url where
  scheme : String
  authority : Option Authority
  path : UrlPath
  query : Option (List Char)
  fragment : Option (List Char)
  deriving DecidableEq, Repr

namespace Url

/-- The usual port of a scheme. -/
def usualPort (scheme : String) : Option Nat :=
  if scheme = "http" ∨ scheme = "ws" then some 80
  else if scheme = "https" ∨ scheme = "wss" then some 443
  else if scheme = "ftp" then some 21
  else none

/-- The schemes whose addresses have a host and a path of segments, a file's host being empty. -/
def isSpecial (scheme : String) : Bool :=
  scheme == "file" || (usualPort scheme).isSome

def pathChars : UrlPath → List Char
  | .rootless text => text
  | .segments parts => parts.flatMap ('/' :: ·)

def pathText (url : Url) : String :=
  String.ofList (pathChars url.path)

def authorityChars (a : Authority) : List Char :=
  (if a.user.isEmpty then [] else a.user ++ ['@']) ++ a.host.chars ++
    (match a.port with
      | some p => ':' :: Decimal.digits p
      | none => [])

def chars (url : Url) : List Char :=
  url.scheme.toList ++ ':' ::
    ((match url.authority with
      | some a => '/' :: '/' :: authorityChars a
      | none =>
        match url.path with
        | .segments ([] :: _ :: _) => ['/', '.']
        | _ => []) ++
    pathChars url.path ++
    (match url.query with
      | some q => '?' :: q
      | none => []) ++
    (match url.fragment with
      | some f => '#' :: f
      | none => []))

def write (url : Url) : String :=
  String.ofList url.chars

/-- The path and the query, as a request names them. -/
def target (url : Url) : String :=
  String.ofList (pathChars url.path ++
    (match url.query with
      | some q => '?' :: q
      | none => []))

/-- The host, if it is not empty. -/
def host? (url : Url) : Option Host :=
  url.authority.bind fun a => if a.host = .name "" then none else some a.host

/-- Whether bytes are left that are not UTF-8 when the percent signs of a text are decoded. -/
def isGarbled (s : List Char) : Bool :=
  let bytes := Percent.decode (utf8 (String.ofList s))
  (String.fromUTF8? ⟨bytes.toArray⟩).isNone

/-- The address without credentials. They stay where they cannot be read: behind a garbled name, and
as a garbled password without a name. -/
def withoutUser (url : Url) : Url :=
  let stays (user : List Char) : Bool :=
    let (name, password) := user.span (· ≠ ':')
    isGarbled name || (name.isEmpty && isGarbled password)
  { url with authority := url.authority.map fun a =>
      if stays a.user then a else { a with user := [] } }

/-- The longest address that is also a URI. -/
def maxUri : Nat := 65534

/-- Whether the address is also a URI, which is shorter and more particular about its host. -/
def isUri (url : Url) : Bool :=
  let strange (c : Char) : Bool := ['"', '`', '\x7b', '\x7d'].contains c
  url.write.utf8ByteSize ≤ maxUri && !(url.authority.any fun a => a.host.chars.any strange)

/-- Puts pairs behind the query. -/
def addPairs (url : Url) (pairs : List (String × String)) : Url :=
  let added := Urlencoded.encode pairs
  { url with query := some (match url.query with
    | none => added
    | some [] => added
    | some q => q ++ '&' :: added) }

def isDot (s : List Char) : Bool :=
  [".", "%2e", "%2E"].contains (String.ofList s)

def isDoubleDot (s : List Char) : Bool :=
  ["..", "%2e%2e", "%2e%2E", "%2E%2e", "%2E%2E", "%2e.", "%2E.", ".%2e", ".%2E"].contains
    (String.ofList s)

/-- The colon or the bar behind the letter of a drive. -/
def marksDrive (c : Char) : Bool :=
  c == ':' || c == '|'

/-- Whether a segment is a drive: a letter and its mark. -/
def isDrive : List Char → Bool
  | [letter, mark] => letter.isAlpha && marksDrive mark
  | _ => false

/-- Whether a segment is a drive up to its first backslash. There is no way back from it. -/
def startsWithDrive (s : List Char) : Bool :=
  isDrive (s.takeWhile (· ≠ '\\'))

/-- The way back from segments, the last one first. -/
def back : List (List Char) → List (List Char)
  | [] => []
  | s :: rest => if startsWithDrive s then s :: rest else rest

/-- Goes along segments: a dot stays, a double dot goes back. A dot at the end leaves an empty
segment. `done` holds the segments gone, the last one first. -/
def walk (done : List (List Char)) : List (List Char) → List (List Char)
  | [] => done.reverse
  | s :: rest =>
    let s' := Percent.encode Percent.inPath s
    let turned := if isDoubleDot s' then some (back done) else if isDot s' then some done else none
    match turned with
    | some there => walk (if rest.isEmpty then [] :: there else there) rest
    | none => walk (s' :: done) rest

/-- The path of a file: a drive that stands first has a colon, and no empty segments stand first. -/
def filePath (parts : List (List Char)) : List (List Char) :=
  match parts with
  | [letter, '|'] :: rest => if letter.isAlpha then [letter, ':'] :: rest else parts
  | _ =>
    match parts.dropWhile (·.isEmpty) with
    | [] => [[]]
    | p => p

/-- The segments between slashes; in special schemes a backslash is a slash. -/
def segmentsOf (special : Bool) (s : List Char) : List (List Char) :=
  (if special then s.map fun c => if c = '\\' then '/' else c else s).splitOn '/'

/-! ## Reading -/

/-- Cuts at the first character that satisfies `p`, which begins the second part. -/
def cut (p : Char → Bool) (s : List Char) : List Char × List Char :=
  s.span fun c => !p c

/-- The query and the fragment. -/
def tailOf (special : Bool) (s : List Char) : Option (List Char) × Option (List Char) :=
  let fragmentOf (r : List Char) : Option (List Char) := match r with
    | '#' :: f => some (Percent.encode Percent.inFragment f)
    | _ => none
  match s with
  | '?' :: rest =>
    let (q, r) := cut (· == '#') rest
    (some (Percent.encode (if special then Percent.inSpecialQuery else Percent.inQuery) q),
      fragmentOf r)
  | _ => (none, fragmentOf s)

def endsPath (c : Char) : Bool :=
  c == '?' || c == '#'

/-- A slash, or in special schemes a backslash. -/
def isSlash (special : Bool) (c : Char) : Bool :=
  c == '/' || (special && c == '\\')

def endsAuthority (special : Bool) (c : Char) : Bool :=
  isSlash special c || endsPath c

/-- Cuts the host from what follows it: a colon outside of brackets ends it. -/
def cutHost (inside : Bool) : List Char → List Char × List Char
  | [] => ([], [])
  | c :: rest =>
    if c = ':' ∧ ¬ inside then ([], c :: rest)
    else
      let (h, r) := cutHost (if c = '[' then true else if c = ']' then false else inside) rest
      (c :: h, r)

/-- The port, if there is a colon, and what follows it. A backslash ends a port in all schemes. -/
def portOf (scheme : String) (s : List Char) : Except UrlError (Option Nat × List Char) :=
  match s with
  | ':' :: text =>
    let (digits, rest) := text.span Decimal.isDigit
    let n := Hex.number 10 digits
    if 65535 < n || rest.head?.any fun c => !endsAuthority true c then .error .invalidPort
    else .ok (if digits.isEmpty || usualPort scheme == some n then none else some n, rest)
  | _ => .ok (none, s)

/-- The credentials, a name and a password. -/
def userOf (s : List Char) : List Char :=
  let (name, rest) := cut (· == ':') s
  let password := Percent.encode Percent.inUser (rest.drop 1)
  Percent.encode Percent.inUser name ++ (if password.isEmpty then [] else ':' :: password)

/-- The authority of a scheme that is not the one of files, and what follows it. -/
def authorityOf (scheme : String) (s : List Char) : Except UrlError (Authority × List Char) :=
  let special := isSpecial scheme
  let (text, behind) := cut (endsAuthority special) s
  let pieces := text.splitOn '@'
  let named := List.intercalate ['@'] pieces.dropLast
  let user := userOf named
  let (hostText, rest) := cutHost false (pieces.getLastD [])
  if 1 < pieces.length ∧ named.isEmpty ∧ hostText.isEmpty ∧ rest.isEmpty ∧ ¬ behind.isEmpty then
    .error .emptyHost
  else if special ∧ hostText.isEmpty then .error .emptyHost
  else
    match (if special then Host.parse hostText else Host.parsePlain hostText) with
    | .error e => .error e
    | .ok host =>
      if host = .name "" ∧ (¬ rest.isEmpty ∨ ¬ user.isEmpty) then .error .emptyHost
      else (portOf scheme (rest ++ behind)).map fun (port, tail) => (⟨user, host, port⟩, tail)

/-- What follows the authority: the path, the query and the fragment. -/
def withRest (scheme : String) (authority : Option Authority) (s : List Char) : Url :=
  let special := isSpecial scheme
  let (p, rest) := cut endsPath s
  let (query, fragment) := tailOf special rest
  let inner := match p with
    | c :: r => if isSlash special c then r else p
    | [] => []
  let parts := if p.isEmpty ∧ ¬ special then [] else walk [] (segmentsOf special inner)
  ⟨scheme, authority, .segments parts, query, fragment⟩

/-- What follows the two slashes. -/
def afterSlashes (scheme : String) (s : List Char) : Except UrlError Url :=
  (authorityOf scheme s).map fun (authority, rest) => withRest scheme (some authority) rest

/-- The address of a file on a host; a file on a drive has none. -/
def onHost (host : Host) (s : List Char) : Url :=
  let url := withRest "file" (some ⟨[], host, none⟩) s
  match url.path with
  | .rootless _ => url
  | .segments parts =>
    let here := parts.head?.any isDrive || host == .name "localhost"
    { url with
      authority := some ⟨[], if here then .name "" else host, none⟩
      path := .segments (filePath parts) }

/-- The address of a file, whose host may be left out. -/
def fileOf (s : List Char) : Except UrlError Url :=
  match s with
  | a :: b :: rest =>
    if isSlash true a ∧ isSlash true b then
      let (h, r) := cut (endsAuthority true) rest
      if isDrive h then .ok (onHost (.name "") rest)
      else if h.isEmpty then .ok (onHost (.name "") r)
      else (Host.parse h).map fun host => onHost host r
    else .ok (onHost (.name "") s)
  | _ => .ok (onHost (.name "") s)

/-- The scheme in small letters, and what follows its colon. -/
def schemeOf (s : List Char) : Option (String × List Char) :=
  let inScheme (c : Char) : Bool := c.isAlphanum || c == '+' || c == '-' || c == '.'
  let (name, rest) := s.span inScheme
  match name, rest with
  | first :: _, ':' :: r =>
    if first.isAlpha then some (String.ofList (name.map Char.toLower), r) else none
  | _, _ => none

/-- An address that is not special: with an authority, with segments, or neither. -/
def plainOf (scheme : String) (s : List Char) : Except UrlError Url :=
  match s with
  | '/' :: '/' :: rest => afterSlashes scheme rest
  | '/' :: _ => .ok (withRest scheme none s)
  | _ =>
    let (text, rest) := cut endsPath s
    let (query, fragment) := tailOf false rest
    .ok ⟨scheme, none, .rootless (Percent.encode Percent.isControl text), query, fragment⟩

/-- The directory of a path, the last one first. -/
def directory : UrlPath → List (List Char)
  | .segments parts => parts.reverse.drop 1
  | .rootless _ => []

/-- A relative address, at a base. -/
def resolve (base : Url) (s : List Char) : Except UrlError Url :=
  let special := isSpecial base.scheme
  let tail (r : List Char) : Url :=
    let (query, fragment) := tailOf special r
    { base with query, fragment }
  match s with
  | [] => .ok { base with fragment := none }
  | '#' :: _ => .ok { base with fragment := (tailOf special s).2 }
  | c :: rest =>
    match base.path with
    | .rootless _ => .error .relativeToRootless
    | .segments _ =>
      if c = '?' then .ok (tail s)
      else if isSlash special c then
        if rest.head?.any (isSlash special) then
          afterSlashes base.scheme
            (if rest.head? = some '/' ∧ c = '/' then rest.drop 1 else s.dropWhile (isSlash special))
        else .ok (withRest base.scheme base.authority s)
      else
        let (p, r) := cut endsPath s
        .ok { tail r with path := .segments (walk (directory base.path) (segmentsOf special p)) }

/-- Without the control characters and spaces at its ends, and without tabs and newlines. -/
def clean (s : List Char) : List Char :=
  let outer (c : Char) : Bool := c.toNat ≤ 0x20
  let trimmed := ((s.dropWhile outer).reverse.dropWhile outer).reverse
  trimmed.filter fun c => c != '\t' && c != '\n' && c != '\r'

/-- Reads an address, relative to a base if there is one. -/
def parseAt (base : Option Url) (text : String) : Except UrlError Url :=
  let s := clean text.toList
  match schemeOf s with
  | some (scheme, rest) =>
    if scheme = "file" then fileOf rest
    else if isSpecial scheme then
      let slashes := rest.takeWhile (isSlash true)
      match base with
      | some b =>
        if slashes.length < 2 ∧ b.scheme = scheme then resolve b rest
        else afterSlashes scheme (rest.drop slashes.length)
      | none => afterSlashes scheme (rest.drop slashes.length)
    else plainOf scheme rest
  | none =>
    match base with
    | some b => resolve b s
    | none => .error .relativeWithoutBase

def parse (text : String) : Except UrlError Url :=
  parseAt none text

def join (base : Url) (text : String) : Except UrlError Url :=
  parseAt (some base) text

end Url

end Bistro
