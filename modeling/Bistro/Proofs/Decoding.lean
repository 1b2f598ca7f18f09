import Bistro.Proofs.RoundTrip
import Bistro.Proofs.Skipping

/-!
# What is decoded

What a shape makes of a spelled value is said by the parts of its records: what the value of each
field has to be, and whether the field may be left out. A record is an object with at most one
member for each part, in any order and among any others, or a list of the parts in their order
(`Json.Tree.IsRecord`). A shape is read from a spelled value exactly as this says
(`Shape.read_spelled_iff`), by an induction on the shape along the loops over items and members.
-/

namespace Bistro

namespace Json

namespace Tree

def IsText (v : Tree) (s : String) : Prop :=
  ∃ body, v = .text body ∧ Unescapes body s.toList

def IsBoolean (v : Tree) (b : Bool) : Prop :=
  v = .boolean b

/-- The zero with a sign is none of the integers. -/
def IsInteger (v : Tree) (n : Int32) : Prop :=
  ∃ token, v = .number token ∧ IsIntegerToken token n.toInt ∧ token ≠ ['-', '0']

/-- The members of an object by the names that they spell, all of which are texts. -/
def Named (members : List (List Char × Tree)) (named : List (String × Tree)) : Prop :=
  List.Forall₂ (fun m n => Unescapes m.1 n.1.toList ∧ m.2 = n.2) members named

/-- A field of a record: what is said of its value where it is given, and where it is left out. -/
structure Part where
  name : String
  given : Tree → Prop
  omitted : Prop

def Part.required (name : String) (given : Tree → Prop) : Part :=
  ⟨name, given, False⟩

/-- A part that may be left out, if its field is what it is by default. -/
def Part.optional (name : String) (given : Tree → Prop) (isDefault : Prop) : Part :=
  ⟨name, given, isDefault⟩

/-- Each part is given by the one member of its name, or is left out. -/
def InMembers (parts : List Part) (named : List (String × Tree)) : Prop :=
  ∀ p ∈ parts, (∃ v, named.filter (fun m => m.1 = p.name) = [(p.name, v)] ∧ p.given v) ∨
    named.filter (fun m => m.1 = p.name) = [] ∧ p.omitted

/-- The parts are given in their order, and left out from some point on. -/
def InItems : List Part → List Tree → Prop
  | [], items => items = []
  | p :: parts, [] => p.omitted ∧ InItems parts []
  | p :: parts, v :: items => p.given v ∧ InItems parts items

def IsRecord (v : Tree) (parts : List Part) : Prop :=
  (∃ members named, v = .object members ∧ Named members named ∧ InMembers parts named) ∨
    ∃ items, v = .list items ∧ InItems parts items

end Tree

end Json

open Json (Tree Reader)

mutual

/-- Whether a spelled value stands for a value of the shape. -/
def Shape.Is : (shape : Shape) → shape.Value → Tree → Prop
  | .text, s, v => v.IsText s
  | .boolean, b, v => v.IsBoolean b
  | .integer, n, v => v.IsInteger n
  | .list item, xs, v => ∃ items, v = .list items ∧ List.Forall₂ item.Is xs items
  | .record _ fields, row, v => v.IsRecord (fields.parts row)

def Fields.parts : (fields : Fields) → fields.Row → List Tree.Part
  | .nil, _ => []
  | .cons name true shape rest, (x, row) => .required name (shape.Is x) :: rest.parts row
  | .cons name false shape rest, (x, row) =>
    .optional name (shape.Is x) (x = shape.empty) :: rest.parts row

end

theorem Fields.parts_cons {name : String} {required : Bool} {shape : Shape} {rest : Fields}
    (x : shape.Value) (row : rest.Row) : (cons name required shape rest).parts (x, row) =
      ⟨name, shape.Is x, required = false ∧ x = shape.empty⟩ :: rest.parts row := by
  cases required <;> simp [parts, Tree.Part.required, Tree.Part.optional]

namespace Json

variable {s rest : List Char} {v : Tree}

namespace Tree

theorem Spells.of_quote (h : v.Spells s rest) {t : List Char} (hs : skipSpaces s = '"' :: t) :
    ∃ body, v = .text body ∧ t = body ++ '"' :: rest ∧ IsBody body := by
  have hbegins := h.begins hs
  rcases v with _ | ⟨_ | _⟩ | token | body | items | members
  case text => exact ⟨body, rfl, (List.cons.inj (hs.symm.trans h.1)).2, h.2⟩
  all_goals simp +decide [Begins] at hbegins

theorem Spells.of_bracket (h : v.Spells s rest) {t : List Char} (hs : skipSpaces s = '[' :: t) :
    ∃ items, v = .list items ∧ SpellsItems true items t rest := by
  have hbegins := h.begins hs
  rcases v with _ | ⟨_ | _⟩ | token | body | items | members
  case list =>
    obtain ⟨r, hr, hitems⟩ := h
    cases hs.symm.trans hr
    exact ⟨items, rfl, hitems⟩
  all_goals simp +decide [Begins] at hbegins

theorem Spells.of_startsNumber (h : v.Spells s rest) (hs : startsNumber (skipSpaces s)) :
    ∃ token, v = .number token := by
  obtain ⟨c, t, hc, hbegins⟩ := h.exists_begins
  rw [hc] at hs
  rcases v with _ | ⟨_ | _⟩ | token | body | items | members
  case number => exact ⟨token, rfl⟩
  all_goals
    obtain rfl := hbegins
    simp +decide [startsNumber] at hs

/-- The integers of a token, as it is written. -/
theorem isInteger_number_iff {token : List Char} {n : Int32} :
    (number token).IsInteger n ↔ token = Decimal.chars n.toInt := by
  rw [← isIntegerToken_iff]
  constructor
  · rintro ⟨_, ⟨⟩, h⟩
    exact h
  · exact fun h => ⟨token, rfl, h⟩

end Tree

/-! ## Scalars -/

theorem readTextValue_spelled_iff (h : v.Spells s rest) {t : String} {r : List Char} :
    readTextValue s = .ok (t, r) ↔ r = rest ∧ v.IsText t := by
  unfold readTextValue
  split
  · rename_i hs
    obtain ⟨body, rfl, rfl, hbody⟩ := h.of_quote hs
    simp [readText_iff hbody, Tree.IsText]
  · rename_i hs
    refine iff_of_false nofun ?_
    rintro ⟨-, body, rfl, -⟩
    exact hs _ h.1

theorem readBoolean_spelled_iff (h : v.Spells s rest) {b : Bool} {r : List Char} :
    readBoolean s = .ok (b, r) ↔ r = rest ∧ v.IsBoolean b := by
  unfold readBoolean Tree.IsBoolean
  split
  · rename_i hs
    have hbegins := h.begins hs
    rcases v with _ | ⟨_ | _⟩ | token | body | items | members
    case boolean.true =>
      cases hs.symm.trans h
      simp [readWord, Except.map, and_comm, eq_comm]
    all_goals simp +decide [Tree.Begins] at hbegins
  · rename_i hs
    have hbegins := h.begins hs
    rcases v with _ | ⟨_ | _⟩ | token | body | items | members
    case boolean.false =>
      cases hs.symm.trans h
      simp [readWord, Except.map, and_comm, eq_comm]
    all_goals simp +decide [Tree.Begins] at hbegins
  · rename_i htrue hfalse
    refine iff_of_false nofun ?_
    rintro ⟨-, rfl⟩
    cases b
    · exact hfalse _ h
    · exact htrue _ h

theorem readInt32Value_spelled_iff (h : v.Spells s rest) {n : Int32} {r : List Char} :
    readInt32Value s = .ok (n, r) ↔ r = rest ∧ v.IsInteger n := by
  have hread : readInt32Value s = .ok (n, r) ↔ readWith none s = .ok (Json.int32 n, r) :=
    readInt32Value_iff
  rw [hread, Json.int32, readWith_eq_number_iff]
  by_cases hnumber : startsNumber (skipSpaces s)
  · obtain ⟨token, rfl⟩ := h.of_startsNumber hnumber
    obtain ⟨hs, htoken, hrest⟩ := h
    have hlow := n.le_toInt
    have hhigh := n.toInt_lt
    rw [and_iff_right hnumber, hs, readNumber_iff htoken hrest, Tree.isInteger_number_iff]
    exact and_congr_right' (and_iff_left (by omega))
  · refine iff_of_false (fun hstart => hnumber hstart.1) ?_
    rintro ⟨-, token, rfl, -⟩
    exact hnumber (h.1 ▸ h.2.1.startsNumber_append rest)

section Loops

variable {α σ : Type}

theorem nextItem_skipSpaces (first : Bool) (s : List Char) :
    nextItem first (skipSpaces s) = nextItem first s := by
  simp only [nextItem, skipSpaces_skipSpaces]

theorem nextItem_of_spells {first : Bool} {s' : List Char} (hgoes : Goes first s s')
    (hv : v.Spells s' rest) : nextItem first s = .ok (some (skipSpaces s')) := by
  have hstart := hv.startsValue
  rw [← nextItem_skipSpaces]
  cases first with
  | true =>
    obtain rfl : s' = s := hgoes
    exact nextItem_first hstart
  | false =>
    obtain ⟨c, t, hs, -, hc⟩ := hstart
    rw [show skipSpaces s = ',' :: s' from hgoes, nextItem_false_comma, hs]
    split <;> simp_all

theorem nextItem_end (h : skipSpaces s = ']' :: rest) (first : Bool) :
    nextItem first s = .ok none := by
  unfold nextItem
  rw [h]
  rfl

theorem closeList_eq_ok_iff {r : List Char} : closeList s = .ok r ↔ skipSpaces s = ']' :: r := by
  unfold closeList
  split
  · rename_i h
    simp [h]
  · rename_i h
    simp [h]
  · rename_i h
    rw [h]
    split <;> simp
  · rename_i hend _
    exact iff_of_false nofun (hend r)

/-- No item is spelled where a list ends. -/
theorem Tree.SpellsItems.of_end {items : List Tree} {first : Bool} {r : List Char}
    (h : SpellsItems first items s rest) (hs : skipSpaces s = ']' :: r) :
    r = rest ∧ items = [] := by
  rcases items with _ | ⟨v, items⟩
  · exact ⟨(List.cons.inj (hs.symm.trans h)).2, rfl⟩
  · obtain ⟨s', r₁, hgoes, hv, -⟩ := h
    have hnext := nextItem_of_spells hgoes hv
    rw [nextItem_end hs] at hnext
    cases hnext

theorem closeObject_eq_ok_iff {r : List Char} :
    closeObject s = .ok r ↔ skipSpaces s = '\x7d' :: r := by
  unfold closeObject
  split
  · rename_i h
    simp [h]
  · rename_i h
    simp [h]
  · rename_i h
    simp [h]
  · rename_i hend _
    exact iff_of_false nofun (hend r)

/-- A reader takes spelled values to their end, and gives what stands for them. -/
def Decodes (read : Reader α) (Is : α → Tree → Prop) : Prop :=
  ∀ (v : Tree) (s rest : List Char), v.Spells s rest → ∀ (x : α) (r : List Char),
    read s = .ok (x, r) ↔ r = rest ∧ Is x v

theorem readItemsWith_round_iff {item : Reader α} {fuel : Nat} {first : Bool} {s' r : List Char}
    {done ys : List α} (h : nextItem first s = .ok (some s')) :
    readItemsWith (noteItem item) (fuel + 1) first done s = .ok (ys, r) ↔
      ∃ x r', item s' = .ok (x, r') ∧
        readItemsWith (noteItem item) fuel false (x :: done) r' = .ok (ys, r) := by
  rw [readItemsWith, h]
  simp only [noteItem]
  rcases item s' with e | ⟨x, r'⟩
  · simp [Except.map]
  · simp [Except.map]

/-- A list is read item by item, each as it is spelled. -/
theorem readItemsWith_spelled_iff {item : Reader α} {Is : α → Tree → Prop}
    (hitem : Decodes item Is) : ∀ {items : List Tree} {first : Bool} {s rest : List Char},
      Tree.SpellsItems first items s rest → ∀ (fuel : Nat), s.length < fuel →
      ∀ (done ys : List α) (r : List Char),
        readItemsWith (noteItem item) fuel first done s = .ok (ys, r) ↔
          r = rest ∧ ∃ xs, List.Forall₂ Is xs items ∧ ys = xs.reverse ++ done
  | _, _, _, _, _, 0, hfuel, _, _, _ => absurd hfuel (Nat.not_lt_zero _)
  | [], first, s, rest, h, fuel + 1, hfuel, done, ys, r => by
    have hclose : closeList s = .ok rest := closeList_eq_ok_iff.2 h
    rw [readItemsWith, nextItem_end h, hclose]
    simp [Except.map, and_comm, eq_comm]
  | v :: items, first, s, rest, ⟨s', r₁, hgoes, hv, hitems⟩, fuel + 1, hfuel, done, ys, r => by
    have hle := hgoes.length_le
    have hlt := hv.length_lt
    have hfirst := hitem v _ _ (Tree.spells_skipSpaces.2 hv)
    have hmore := readItemsWith_spelled_iff hitem hitems fuel (by omega)
    rw [readItemsWith_round_iff (nextItem_of_spells hgoes hv)]
    constructor
    · rintro ⟨x, r', hread, hloop⟩
      obtain ⟨rfl, hx⟩ := (hfirst x r').1 hread
      obtain ⟨rfl, xs, hxs, rfl⟩ := (hmore _ _ _).1 hloop
      exact ⟨rfl, x :: xs, .cons hx hxs, by simp⟩
    · rintro ⟨rfl, _, ⟨⟩ | ⟨hx, hxs⟩, rfl⟩
      exact ⟨_, _, (hfirst _ _).2 ⟨rfl, hx⟩, (hmore _ _ _).2 ⟨rfl, _, hxs, by simp⟩⟩

theorem readItems_spelled_iff {item : Reader α} {Is : α → Tree → Prop} (hitem : Decodes item Is)
    {items : List Tree} (h : Tree.SpellsItems true items s rest) {xs : List α} {r : List Char} :
    readItems item s = .ok (xs, r) ↔ r = rest ∧ List.Forall₂ Is xs items := by
  rw [readItems_eq, map_eq_ok_iff]
  constructor
  · rintro ⟨⟨ys, r'⟩, hloop, heq⟩
    cases heq
    obtain ⟨rfl, xs, hxs, rfl⟩ :=
      (readItemsWith_spelled_iff hitem h _ (Nat.lt_succ_self _) _ _ _).1 hloop
    exact ⟨rfl, by simpa using hxs⟩
  · rintro ⟨rfl, hxs⟩
    exact ⟨_, (readItemsWith_spelled_iff hitem h _ (Nat.lt_succ_self _) _ _ _).2
      ⟨rfl, xs, hxs, rfl⟩, by simp⟩

/-- What members do to a state, one after the other. -/
def Steps (step : σ → String → Tree → σ → Prop) : σ → List (String × Tree) → σ → Prop
  | state, [], state' => state' = state
  | state, (name, v) :: named, state' => ∃ mid, step state name v mid ∧ Steps step mid named state'

theorem nextName_end (h : skipSpaces s = '\x7d' :: rest) (first : Bool) :
    nextName first s = .ok none := by
  unfold nextName
  rw [h]
  rfl

theorem nextName_of_goes {first : Bool} {s' t : List Char} (hgoes : Goes first s s')
    (hname : skipSpaces s' = '"' :: t) : nextName first s = .ok (some t) := by
  unfold nextName
  cases first with
  | true =>
    obtain rfl : s' = s := hgoes
    rw [hname]
    rfl
  | false =>
    have hcomma : skipSpaces s = ',' :: s' := hgoes
    simp [hcomma, hname]

/-- An object is read member by member up to its closing brace, if every name is a text. -/
theorem readMembersWith_spelled_iff {member : σ → String → Reader σ}
    {step : σ → String → Tree → σ → Prop}
    (hmember : ∀ {v : Tree} {behind colon rest : List Char}, skipSpaces behind = ':' :: colon →
      v.Spells colon rest → ∀ (state : σ) (name : String) (state' : σ) (r : List Char),
        member state name behind = .ok (state', r) ↔ r = rest ∧ step state name v state') :
    ∀ {members : List (List Char × Tree)} {first : Bool} {s rest : List Char},
      Tree.SpellsMembers first members s rest → ∀ (fuel : Nat), s.length < fuel →
      ∀ (state state' : σ) (r : List Char),
        (∃ r', readMembersWith member fuel first state s = .ok (state', r') ∧
            closeObject r' = .ok r) ↔
          r = rest ∧ ∃ named, Tree.Named members named ∧ Steps step state named state'
  | _, _, _, _, _, 0, hfuel, _, _, _ => absurd hfuel (Nat.not_lt_zero _)
  | [], first, s, rest, h, fuel + 1, hfuel, state, state', r => by
    have hend : skipSpaces s = '\x7d' :: rest := h
    have hnext := nextName_end hend first
    constructor
    · rintro ⟨r', hloop, hclose⟩
      rcases readMembersWith_succ_iff.1 hloop with ⟨-, rfl, rfl⟩ | ⟨_, _, _, _, _, hsome, -⟩
      · cases hend.symm.trans (closeObject_eq_ok_iff.1 hclose)
        exact ⟨rfl, [], .nil, rfl⟩
      · cases hnext.symm.trans hsome
    · rintro ⟨rfl, _, ⟨⟩, rfl⟩
      exact ⟨s, readMembersWith_succ_iff.2 (.inl ⟨hnext, rfl, rfl⟩), closeObject_eq_ok_iff.2 hend⟩
  | (body, v) :: members, first, s, rest,
      ⟨s', behind, colon, r₁, hgoes, hname, hbody, hcolon, hv, hmembers⟩, fuel + 1, hfuel, state,
      state', r => by
    have hle := hgoes.length_le
    have hquote := lt_length_of_token hname
    have hcolonLt := lt_length_of_skipSpaces hcolon
    have hlt := hv.length_lt
    rw [List.length_cons] at hquote
    have hnext := nextName_of_goes hgoes hname
    have hfirst := hmember hcolon hv state
    have hmore := readMembersWith_spelled_iff hmember hmembers fuel (by omega)
    constructor
    · rintro ⟨r', hloop, hclose⟩
      rcases readMembersWith_succ_iff.1 hloop with
        ⟨hnone, -⟩ | ⟨t, name, t', mid, t'', hsome, hread, hstep, hloop⟩
      · cases hnext.symm.trans hnone
      · cases hnext.symm.trans hsome
        obtain ⟨rfl, hchars⟩ := (readText_iff hbody).1 hread
        obtain ⟨rfl, hstep⟩ := (hfirst name mid t'').1 hstep
        obtain ⟨rfl, named, hnamed, hsteps⟩ := (hmore mid state' r).1 ⟨r', hloop, hclose⟩
        exact ⟨rfl, (name, v) :: named, .cons ⟨hchars, rfl⟩ hnamed, mid, hstep, hsteps⟩
    · rintro ⟨rfl, _, hnamed, hsteps⟩
      rcases hnamed with _ | ⟨⟨hchars, hvalue⟩, hnamed⟩
      rename_i m named
      obtain ⟨name, v'⟩ := m
      obtain rfl : v = v' := hvalue
      obtain ⟨mid, hstep, hsteps⟩ := hsteps
      obtain ⟨r', hloop, hclose⟩ := (hmore mid state' r).2 ⟨rfl, named, hnamed, hsteps⟩
      exact ⟨r', readMembersWith_succ_iff.2 (.inr ⟨_, name, behind, mid, r₁, hnext,
        (readText_iff hbody).2 ⟨rfl, hchars⟩, (hfirst name mid r₁).2 ⟨rfl, hstep⟩, hloop⟩), hclose⟩

end Loops

end Json

namespace Fields

/-- Reads a member into the slot of its name, or passes over it if no field has this name. -/
def readOrSkip (fields : Fields) (levels : Nat) (slots : fields.Slots) (name : String) :
    Reader fields.Slots := fun s =>
  (fields.readMember levels slots name s).getD
    (((Json.readColon s).bind Json.skipValue).map fun r => (slots, r))

/-- What a member does to the slots: its value goes to the slot of its name, if it is empty. -/
def Step : (fields : Fields) → fields.Slots → String → Tree → fields.Slots → Prop
  | .nil, _, _, _, _ => True
  | .cons name _ shape rest, (slot, slots), n, v, (slot', slots') =>
    if n = name then slot = none ∧ (∃ x, slot' = some x ∧ shape.Is x v) ∧ slots' = slots
    else slot' = slot ∧ rest.Step slots n v slots'

theorem readOrSkip_cons {field : String} {required : Bool} {shape : Shape} {rest : Fields}
    (levels : Nat) (slot : Option shape.Value) (slots : rest.Slots) (name : String)
    (s : List Char) :
    (cons field required shape rest).readOrSkip levels (slot, slots) name s =
      if name = field then
        if slot.isSome then .error (.behind '\x7d' (.duplicateField field) s)
        else ((Json.readColon s).bind (shape.read levels)).map fun x => ((some x.1, slots), x.2)
      else (rest.readOrSkip levels slots name s).map fun x => ((slot, x.1), x.2) := by
  unfold readOrSkip
  rw [readMember_cons]
  split_ifs with hname
  · rfl
  · rfl
  · cases rest.readMember levels slots name s with
    | some read => rfl
    | none => cases (Json.readColon s).bind Json.skipValue <;> rfl

theorem step_of_notMem {n : String} {v : Tree} :
    ∀ {fields : Fields} {slots slots' : fields.Slots}, n ∉ fields.names →
      (fields.Step slots n v slots' ↔ slots' = slots)
  | .nil, _, _, _ => iff_of_true trivial rfl
  | .cons name _ shape rest, (slot, slots), (slot', slots'), h => by
    rw [names, List.mem_cons, not_or] at h
    rw [Step, if_neg h.1, step_of_notMem h.2]
    exact Prod.mk.injEq .. ▸ Iff.rfl

/-- What members of a name do to the slot of its field. -/
def Fills {α : Type} (Is : α → Tree → Prop) (name : String) (named : List (String × Tree))
    (slot slot' : Option α) : Prop :=
  named.filter (fun m => m.1 = name) = [] ∧ slot' = slot ∨
    slot = none ∧ ∃ v x, named.filter (fun m => m.1 = name) = [(name, v)] ∧ slot' = some x ∧ Is x v

theorem fills_some_iff {α : Type} {Is : α → Tree → Prop} {name : String}
    {named : List (String × Tree)} {x : α} {slot' : Option α} :
    Fills Is name named (some x) slot' ↔
      named.filter (fun m => m.1 = name) = [] ∧ slot' = some x := by
  simp [Fills]

theorem fills_cons_self_iff {α : Type} {Is : α → Tree → Prop} {name : String} {v : Tree}
    {named : List (String × Tree)} {slot slot' : Option α} :
    Fills Is name ((name, v) :: named) slot slot' ↔
      slot = none ∧ ∃ x, Is x v ∧ Fills Is name named (some x) slot' := by
  simp only [fills_some_iff]
  unfold Fills
  rw [List.filter_cons_of_pos (by simp)]
  constructor
  · rintro (⟨⟨⟩, -⟩ | ⟨rfl, v', x, hone, rfl, hx⟩)
    obtain ⟨heq, hnone⟩ := List.cons.inj hone
    cases heq
    exact ⟨rfl, x, hx, hnone, rfl⟩
  · rintro ⟨rfl, x, hx, hnone, rfl⟩
    exact .inr ⟨rfl, v, x, by rw [hnone], rfl, hx⟩

theorem fills_cons_of_ne {α : Type} {Is : α → Tree → Prop} {name n : String} {v : Tree}
    {named : List (String × Tree)} {slot slot' : Option α} (h : n ≠ name) :
    Fills Is name ((n, v) :: named) slot slot' ↔ Fills Is name named slot slot' := by
  unfold Fills
  rw [List.filter_cons_of_neg (by simpa using h)]

/-- Members fill the slot of the first field and those of the others apart from each other. -/
theorem steps_cons_iff {name : String} {required : Bool} {shape : Shape} {rest : Fields}
    (hname : name ∉ rest.names) :
    ∀ {named : List (String × Tree)} {slot slot' : Option shape.Value} {slots slots' : rest.Slots},
      Json.Steps (cons name required shape rest).Step (slot, slots) named (slot', slots') ↔
        Fills shape.Is name named slot slot' ∧ Json.Steps rest.Step slots named slots'
  | [], slot, slot', slots, slots' => by
    constructor
    · intro h
      obtain ⟨rfl, rfl⟩ := Prod.mk.inj h
      exact ⟨.inl ⟨rfl, rfl⟩, rfl⟩
    · rintro ⟨⟨-, rfl⟩ | ⟨-, v, x, hone, -⟩, hslots⟩
      · obtain rfl : slots' = slots := hslots
        rfl
      · cases hone
  | (n, v) :: named, slot, slot', slots, slots' => by
    by_cases hn : n = name
    · subst hn
      rw [fills_cons_self_iff]
      constructor
      · rintro ⟨⟨mid, mids⟩, hstep, hsteps⟩
        rw [Step, if_pos rfl] at hstep
        obtain ⟨rfl, ⟨x, rfl, hx⟩, rfl⟩ := hstep
        obtain ⟨hfills, hsteps⟩ := (steps_cons_iff hname).1 hsteps
        exact ⟨⟨rfl, x, hx, hfills⟩, _, (step_of_notMem hname).2 rfl, hsteps⟩
      · rintro ⟨⟨rfl, x, hx, hfills⟩, mids, hmids, hsteps⟩
        obtain rfl := (step_of_notMem hname).1 hmids
        refine ⟨(some x, mids), ?_, (steps_cons_iff hname).2 ⟨hfills, hsteps⟩⟩
        rw [Step, if_pos rfl]
        exact ⟨rfl, ⟨x, rfl, hx⟩, rfl⟩
    · rw [fills_cons_of_ne hn]
      constructor
      · rintro ⟨⟨mid, mids⟩, hstep, hsteps⟩
        rw [Step, if_neg hn] at hstep
        obtain ⟨rfl, hstep⟩ := hstep
        obtain ⟨hfills, hsteps⟩ := (steps_cons_iff hname).1 hsteps
        exact ⟨hfills, mids, hstep, hsteps⟩
      · rintro ⟨hfills, mids, hstep, hsteps⟩
        refine ⟨(slot, mids), ?_, (steps_cons_iff hname).2 ⟨hfills, hsteps⟩⟩
        rw [Step, if_neg hn]
        exact ⟨rfl, hstep⟩

/-- The first field of a row as its slot leaves it. -/
theorem exists_fills_iff {α : Type} {Is : α → Tree → Prop} {name : String}
    {named : List (String × Tree)} {x : α} {absent : Prop} :
    (∃ slot, Fills Is name named none slot ∧ (slot = some x ∨ slot = none ∧ absent)) ↔
      (∃ v, named.filter (fun m => m.1 = name) = [(name, v)] ∧ Is x v) ∨
        named.filter (fun m => m.1 = name) = [] ∧ absent := by
  constructor
  · rintro ⟨slot, ⟨hnone, rfl⟩ | ⟨-, v, y, hone, rfl, hy⟩, hslot | ⟨hslot, habsent⟩⟩
    · cases hslot
    · exact .inr ⟨hnone, habsent⟩
    · cases hslot
      exact .inl ⟨v, hone, hy⟩
    · cases hslot
  · rintro (⟨v, hone, hx⟩ | ⟨hnone, habsent⟩)
    · exact ⟨some x, .inr ⟨rfl, v, x, hone, rfl, hx⟩, .inl rfl⟩
    · exact ⟨none, .inl ⟨hnone, rfl⟩, .inr ⟨rfl, habsent⟩⟩

/-- The slots that members leave make the row of which they are the parts. -/
theorem complete_steps_iff : ∀ {fields : Fields} {levels : Nat}, fields.within levels →
    ∀ (named : List (String × Tree)) (row : fields.Row),
      (∃ slots, Json.Steps fields.Step fields.noSlots named slots ∧
          fields.complete slots = .ok row) ↔
        Tree.InMembers (fields.parts row) named
  | .nil, _, _, named, row => by
    refine iff_of_true ⟨(), ?_, rfl⟩ (List.forall_mem_nil _)
    induction named with
    | nil => rfl
    | cons m named ih => exact ⟨(), trivial, ih⟩
  | .cons name required shape rest, levels, h, named, (x, row) => by
    obtain ⟨hname, -, hrest⟩ := within_cons_iff.1 h
    have hmore := complete_steps_iff hrest named row
    have hfirst := @exists_fills_iff _ shape.Is name named x (required = false ∧ x = shape.empty)
    rw [Tree.InMembers, parts_cons, List.forall_mem_cons, ← Tree.InMembers, ← hmore]
    constructor
    · rintro ⟨⟨slot, slots⟩, hsteps, hcomplete⟩
      obtain ⟨hfills, hsteps⟩ := (steps_cons_iff hname).1 hsteps
      obtain ⟨hslot, hcomplete⟩ := complete_cons_iff.1 hcomplete
      exact ⟨hfirst.1 ⟨slot, hfills, hslot⟩, slots, hsteps, hcomplete⟩
    · rintro ⟨hgiven, slots, hsteps, hcomplete⟩
      obtain ⟨slot, hfills, hslot⟩ := hfirst.2 hgiven
      exact ⟨(slot, slots), (steps_cons_iff hname).2 ⟨hfills, hsteps⟩,
        complete_cons_iff.2 ⟨hslot, hcomplete⟩⟩

end Fields

/-! ## Shapes -/

/-- A record is read from an object through its slots. -/
theorem Shape.read_object_iff {name : String} {fields : Fields} {levels : Nat} {s t r : List Char}
    (hs : Json.skipSpaces s = '\x7b' :: t) {row : fields.Row} :
    (record name fields).read (levels + 1) s = .ok (row, r) ↔
      ∃ slots, (∃ r', Json.readMembersWith (fields.readOrSkip levels) (t.length + 1) true
        fields.noSlots t = .ok (slots, r') ∧ Json.closeObject r' = .ok r) ∧
        fields.complete slots = .ok row := by
  rw [read]
  simp only [hs, Nat.add_one_ne_zero, if_false, Nat.add_sub_cancel]
  unfold Fields.readOrSkip
  split
  · rename_i hloop
    simp [hloop]
  · rename_i slots r' hloop
    simp only [hloop, Except.ok.injEq, Prod.mk.injEq]
    split
    · rename_i hcomplete
      grind
    · rename_i row' hcomplete
      rw [map_eq_ok_iff]
      grind

theorem Shape.read_array_iff {name : String} {fields : Fields} {levels : Nat} {s t r : List Char}
    (hs : Json.skipSpaces s = '[' :: t) {row : fields.Row} :
    (record name fields).read (levels + 1) s = .ok (row, r) ↔
      ∃ r', fields.readRow levels name fields.size 0 t = .ok (row, r') ∧
        Json.closeList r' = .ok r := by
  rw [read]
  simp only [hs, Nat.add_one_ne_zero, if_false, Nat.add_sub_cancel]
  rcases fields.readRow levels name fields.size 0 t with e | ⟨row', r'⟩
  · simp
  · simp only [map_eq_ok_iff]
    grind

theorem Shape.read_neither {name : String} {fields : Fields} {levels : Nat} {s : List Char}
    (hlist : ∀ t, Json.skipSpaces s ≠ '[' :: t) (hobject : ∀ t, Json.skipSpaces s ≠ '\x7b' :: t)
    (x : fields.Row × List Char) : (record name fields).read levels s ≠ .ok x := by
  intro hread
  rw [read] at hread
  dsimp only at hread
  split at hread
  · rename_i h
    exact hlist _ h
  · rename_i h
    exact hobject _ h
  · cases hread

theorem Fields.readRow_end {field name : String} {required : Bool} {shape : Shape}
    {fields : Fields} {levels size index : Nat} {s r : List Char} {x : shape.Value}
    {row : fields.Row} (h : Json.nextItem (index == 0) s = .ok none) :
    (cons field required shape fields).readRow levels name size index s = .ok ((x, row), r) ↔
      (required = false ∧ x = shape.empty) ∧
        fields.readRow levels name size index s = .ok (row, r) := by
  rw [readRow]
  simp only [h]
  split_ifs with hrequired
  · simp [hrequired]
  · refine map_eq_ok_iff.trans ?_
    grind

theorem Fields.readRow_item {field name : String} {required : Bool} {shape : Shape}
    {fields : Fields} {levels size index : Nat} {s s' r : List Char} {x : shape.Value}
    {row : fields.Row} (h : Json.nextItem (index == 0) s = .ok (some s')) :
    (cons field required shape fields).readRow levels name size index s = .ok ((x, row), r) ↔
      ∃ r', shape.read levels s' = .ok (x, r') ∧
        fields.readRow levels name size (index + 1) r' = .ok (row, r) := by
  rw [readRow]
  simp only [h]
  rcases shape.read levels s' with e | ⟨y, r'⟩
  · simp
  · refine map_eq_ok_iff.trans ?_
    grind

theorem Json.Tree.not_begins_of_isScalar {v : Tree} (h : v.isScalar) :
    ¬ v.Begins '[' ∧ ¬ v.Begins '\x7b' := by
  rcases v with _ | ⟨_ | _⟩ | token | body | items | members
  case list => cases h
  case object => cases h
  all_goals simp +decide [Begins]

theorem Json.Tree.isRecord_list_iff {items : List Tree} {parts : List Tree.Part} :
    (list items).IsRecord parts ↔ InItems parts items := by
  simp [IsRecord]

theorem Json.Tree.isRecord_object_iff {members : List (List Char × Tree)}
    {parts : List Tree.Part} :
    (object members).IsRecord parts ↔ ∃ named, Named members named ∧ InMembers parts named := by
  simp [IsRecord]

mutual

/-- What is read of a spelled value is what stands for it. -/
theorem Shape.read_spelled_iff : ∀ {shape : Shape} {levels : Nat}, shape.within levels →
    Json.Decodes (shape.read levels) shape.Is
  | .text, _, _, v, s, rest, hv, x, r => Json.readTextValue_spelled_iff hv
  | .boolean, _, _, v, s, rest, hv, x, r => Json.readBoolean_spelled_iff hv
  | .integer, _, _, v, s, rest, hv, x, r => Json.readInt32Value_spelled_iff hv
  | .list item, levels, h, v, s, rest, hv, x, r => by
    obtain ⟨inner, rfl, hitem⟩ := Shape.within_list h
    rw [Shape.read, Shape.Is]
    simp only [Nat.add_one_ne_zero, Nat.add_sub_cancel]
    split
    · rename_i hs
      obtain ⟨items, rfl, hitems⟩ := hv.of_bracket hs
      refine (Json.readItems_spelled_iff (Shape.read_spelled_iff hitem) hitems).trans ?_
      simp
    · rename_i hs
      refine iff_of_false nofun ?_
      rintro ⟨-, items, rfl, -⟩
      obtain ⟨t, ht, -⟩ := hv
      exact hs _ ht
  | .record name fields, levels, h, v, s, rest, hv, x, r => by
    obtain ⟨inner, rfl, hfields⟩ := Shape.within_record h
    by_cases hscalar : v.isScalar
    · obtain ⟨hlist, hobject⟩ := Tree.not_begins_of_isScalar hscalar
      refine iff_of_false (Shape.read_neither (fun t hs => hlist (hv.begins hs))
        (fun t hs => hobject (hv.begins hs)) _) ?_
      rintro ⟨-, ⟨members, named, rfl, -⟩ | ⟨items, rfl, -⟩⟩ <;> cases hscalar
    · rcases v with _ | _ | _ | _ | items | members
      case list =>
        obtain ⟨t, hs, hitems⟩ := hv
        refine (Shape.read_array_iff hs).trans ?_
        rw [Shape.Is, Tree.isRecord_list_iff]
        have hfirst : Tree.SpellsItems (0 == 0) items t rest := hitems
        exact Fields.readRow_spelled_iff hfields hfirst name fields.size x r
      case object =>
        obtain ⟨t, hs, hmembers⟩ := hv
        refine (Shape.read_object_iff hs).trans ?_
        rw [Shape.Is, Tree.isRecord_object_iff]
        have hloop := Json.readMembersWith_spelled_iff
          (fun hcolon hv => Fields.readOrSkip_spelled_iff hfields hcolon hv) hmembers _
          (Nat.lt_succ_self _) fields.noSlots
        have hrow := fun named => Fields.complete_steps_iff hfields named x
        simp only [hloop]
        constructor
        · rintro ⟨slots, ⟨rfl, named, hnamed, hsteps⟩, hcomplete⟩
          exact ⟨rfl, named, hnamed, (hrow named).1 ⟨slots, hsteps, hcomplete⟩⟩
        · rintro ⟨rfl, named, hnamed, hparts⟩
          obtain ⟨slots, hsteps, hcomplete⟩ := (hrow named).2 hparts
          exact ⟨slots, ⟨rfl, named, hnamed, hsteps⟩, hcomplete⟩
      all_goals exact absurd rfl hscalar

theorem Fields.readOrSkip_spelled_iff : ∀ {fields : Fields} {levels : Nat}, fields.within levels →
    ∀ {v : Tree} {behind colon rest : List Char}, Json.skipSpaces behind = ':' :: colon →
      v.Spells colon rest → ∀ (slots : fields.Slots) (name : String) (slots' : fields.Slots)
        (r : List Char), fields.readOrSkip levels slots name behind = .ok (slots', r) ↔
          r = rest ∧ fields.Step slots name v slots'
  | .nil, levels, h, v, behind, colon, rest, hcolon, hv, slots, name, slots', r => by
    have hskip : Fields.nil.readOrSkip levels slots name behind = .ok (slots, rest) := by
      rw [Fields.readOrSkip, Fields.readMember, Option.getD_none, Json.readColon_eq hcolon]
      exact congrArg (Except.map fun r => (slots, r)) (Json.skipValue_of_spells hv)
    rw [hskip, Fields.Step, and_true, Except.ok.injEq, Prod.mk.injEq, eq_comm (a := rest)]
    exact and_iff_right rfl
  | .cons field required shape fields, levels, h, v, behind, colon, rest, hcolon, hv,
      (slot, slots), name, (slot', slots'), r => by
    obtain ⟨-, hshape, hfields⟩ := Fields.within_cons_iff.1 h
    rw [Fields.readOrSkip_cons, Fields.Step]
    split_ifs with hname hslot
    · refine iff_of_false nofun ?_
      rintro ⟨-, rfl, -⟩
      cases hslot
    · have hread := Shape.read_spelled_iff hshape v _ _ hv
      have hcolonRead : (Json.readColon behind).bind (shape.read levels) =
          shape.read levels colon := by
        rw [Json.readColon_eq hcolon]
        rfl
      rw [hcolonRead]
      refine map_eq_ok_iff.trans ?_
      obtain rfl : slot = none := by simpa using hslot
      constructor
      · rintro ⟨⟨x, r'⟩, hx, heq⟩
        cases heq
        obtain ⟨rfl, hx⟩ := (hread x r').1 hx
        exact ⟨rfl, rfl, ⟨x, rfl, hx⟩, rfl⟩
      · rintro ⟨rfl, -, ⟨x, rfl, hx⟩, rfl⟩
        exact ⟨(x, r), (hread x r).2 ⟨rfl, hx⟩, rfl⟩
    · have hmore := Fields.readOrSkip_spelled_iff hfields hcolon hv slots name
      refine map_eq_ok_iff.trans ?_
      constructor
      · rintro ⟨⟨slots₁, r'⟩, hread, heq⟩
        cases heq
        obtain ⟨rfl, hstep⟩ := (hmore slots₁ r').1 hread
        exact ⟨rfl, rfl, hstep⟩
      · rintro ⟨rfl, rfl, hstep⟩
        exact ⟨(slots', r), (hmore slots' r).2 ⟨rfl, hstep⟩, rfl⟩

theorem Fields.readRow_spelled_iff : ∀ {fields : Fields} {levels : Nat}, fields.within levels →
    ∀ {items : List Tree} {index : Nat} {s rest : List Char},
      Tree.SpellsItems (index == 0) items s rest → ∀ (name : String) (size : Nat)
        (row : fields.Row) (r : List Char),
        (∃ r', fields.readRow levels name size index s = .ok (row, r') ∧
            Json.closeList r' = .ok r) ↔
          r = rest ∧ Tree.InItems (fields.parts row) items
  | .nil, levels, h, items, index, s, rest, hitems, name, size, row, r => by
    rw [Fields.parts, Tree.InItems]
    constructor
    · rintro ⟨r', hread, hclose⟩
      obtain ⟨-, rfl⟩ := Prod.mk.inj (Except.ok.inj hread)
      exact Json.Tree.SpellsItems.of_end hitems (Json.closeList_eq_ok_iff.1 hclose)
    · rintro ⟨rfl, rfl⟩
      exact ⟨s, rfl, Json.closeList_eq_ok_iff.2 hitems⟩
  | .cons field required shape fields, levels, h, [], index, s, rest, hitems, name, size,
      (x, row), r => by
    obtain ⟨-, -, hfields⟩ := Fields.within_cons_iff.1 h
    have hmore := Fields.readRow_spelled_iff hfields hitems name size row r
    rw [Fields.parts_cons, Tree.InItems, and_left_comm, ← hmore]
    simp only [Fields.readRow_end (Json.nextItem_end hitems _)]
    grind
  | .cons field required shape fields, levels, h, v :: items, index, s, rest,
      ⟨s', r₁, hgoes, hv, hitems⟩, name, size, (x, row), r => by
    obtain ⟨-, hshape, hfields⟩ := Fields.within_cons_iff.1 h
    have hread := Shape.read_spelled_iff hshape v _ _ (Tree.spells_skipSpaces.2 hv)
    have hnext : Tree.SpellsItems (index + 1 == 0) items r₁ rest := hitems
    have hmore := Fields.readRow_spelled_iff hfields hnext name size row r
    rw [Fields.parts_cons, Tree.InItems, and_left_comm, ← hmore]
    simp only [Fields.readRow_item (Json.nextItem_of_spells hgoes hv), hread]
    grind

end

end Bistro
