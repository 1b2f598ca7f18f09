import Bistro.Text.Blank

/-!
# Media types

The type of a body is written as two tokens with a slash between them, such as `text/html`, and
parameters behind semicolons. A parameter is a token, an equals sign and a value, which is a token
or stands between quotes. Nothing is skipped but the blanks before a parameter and behind a closing
quote, so that a text with any other blank is no media type.
-/

namespace Bistro

structure MediaType where
  kind : String
  subtype : String
  parameters : List (String × String)
  deriving DecidableEq, Repr

namespace MediaType

def isTokenChar (c : Char) : Bool :=
  c.isAlphanum || "!#$%&'*+-.^_`|~".contains c

def isQuotable (c : Char) : Bool :=
  ' ' ≤ c && c != '\x7f'

/-- What follows the end of a parameter: the next one behind a semicolon, or nothing. -/
def next? : List Char → Option (List Char)
  | [] => some []
  | ';' :: rest => some rest
  | _ => none

/-- A value and what follows it. The sign behind an opening quote is part of the value, even if it
is a quote itself, and only the end of the text may follow an empty value. -/
def value? : List Char → Option (List Char × List Char)
  | '"' :: c :: rest =>
    let value := c :: rest.takeWhile (· ≠ '"')
    match rest.dropWhile (· ≠ '"') with
    | [] => none
    | _ :: behind =>
      if value.all isQuotable then (next? (behind.dropWhile (· = ' '))).map (value, ·) else none
  | s =>
    let value := s.takeWhile isTokenChar
    let behind := s.dropWhile isTokenChar
    if value = [] ∧ behind ≠ [] then none else (next? behind).map (value, ·)

theorem length_next? {s rest : List Char} (h : next? s = some rest) : rest.length ≤ s.length := by
  unfold next? at h
  split at h <;> simp_all

theorem length_dropWhile_le (p : Char → Bool) (s : List Char) :
    (s.dropWhile p).length ≤ s.length :=
  (List.dropWhile_suffix p).length_le

theorem length_value? {s value rest : List Char} (h : value? s = some (value, rest)) :
    rest.length ≤ s.length := by
  unfold value? at h
  split at h
  · rename_i c t
    split at h
    · simp at h
    · rename_i q behind hb
      dsimp only at h
      split at h
      · obtain ⟨u, hn, he⟩ := Option.map_eq_some_iff.1 h
        obtain ⟨-, rfl⟩ := Prod.mk.injEq .. ▸ he
        have h₁ := length_next? hn
        have h₂ := length_dropWhile_le (· = ' ') behind
        have h₃ := length_dropWhile_le (· ≠ '"') t
        simp only [hb, List.length_cons] at h₃ ⊢
        omega
      · simp at h
  · dsimp only at h
    split at h
    · simp at h
    · obtain ⟨u, hn, he⟩ := Option.map_eq_some_iff.1 h
      obtain ⟨-, rfl⟩ := Prod.mk.injEq .. ▸ he
      exact Nat.le_trans (length_next? hn) (length_dropWhile_le _ _)

/-- The parameters behind a semicolon, with their names in lower case. -/
def parameters? (s : List Char) : Option (List (String × String)) :=
  match _ : s.dropWhile (· = ' ') with
  | [] => some []
  | c :: t =>
    if isTokenChar c then
      match _ : t.dropWhile isTokenChar with
      | '=' :: behind =>
        match _ : value? behind with
        | some (value, rest) => do
          let name := (String.ofList (c :: t.takeWhile isTokenChar)).toLower
          return (name, String.ofList value) :: (← parameters? rest)
        | none => none
      | _ => none
    else none
termination_by s.length
decreasing_by
  have h₁ := length_dropWhile_le (· = ' ') s
  have h₂ := length_dropWhile_le isTokenChar t
  have h₃ := length_value? ‹value? behind = some (value, rest)›
  simp_all
  omega

/-- Reads a media type. -/
def parse? (text : String) : Option MediaType := do
  let s := text.toList
  let '/' :: behind := s.dropWhile isTokenChar | none
  let kind := s.takeWhile isTokenChar
  let subtype := behind.takeWhile isTokenChar
  guard (kind ≠ [])
  let parameters ← match behind.dropWhile isTokenChar with
    | [] => some []
    | ';' :: rest => if subtype = [] then none else parameters? rest
    | _ => none
  return ⟨(String.ofList kind).toLower, (String.ofList subtype).toLower, parameters⟩

/-- The value of the first parameter with a name. -/
def get? (m : MediaType) (name : String) : Option String :=
  m.parameters.lookup name

end MediaType

end Bistro
