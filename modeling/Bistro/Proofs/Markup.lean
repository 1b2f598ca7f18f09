import Bistro.Proofs.Escape

/-!
# Markup and its tags

A tag runs from `<` to the next `>`, and a quoted value in it to the next quote. Markup is written
as tags, each with the text behind it. If the texts and the values are clean, then cutting the
written markup gives back exactly these tags and texts (`cut_render`), and each tag can be read
back with its values (`Tag.read_chars`).
-/

namespace Bistro

/-- A tag, with its attributes in order; some attributes have no value. -/
structure Tag where
  name : String
  attributes : List (String × Option String)
  deriving DecidableEq, Repr

/-- Whether a character can stand in the name of a tag or of an attribute. -/
def isNameChar (c : Char) : Bool :=
  c != ' ' && c != '=' && isPlain c

namespace Tag

def attributeChars : String × Option String → List Char
  | (name, none) => ' ' :: name.toList
  | (name, some value) => ' ' :: name.toList ++ '=' :: '"' :: value.toList ++ ['"']

/-- What stands between the brackets. -/
def inside (t : Tag) : List Char :=
  t.name.toList ++ t.attributes.flatMap attributeChars

def chars (t : Tag) : List Char :=
  '<' :: t.inside ++ ['>']

@[simp] theorem attributeChars_none (name : String) :
    attributeChars (name, none) = ' ' :: name.toList := rfl

@[simp] theorem attributeChars_some (name value : String) :
    attributeChars (name, some value) =
      ' ' :: (name.toList ++ '=' :: '"' :: (value.toList ++ ['"'])) := by
  simp [attributeChars]

@[simp] theorem chars_mk (name : String) (attributes : List (String × Option String)) :
    chars ⟨name, attributes⟩ =
      '<' :: (name.toList ++ (attributes.flatMap attributeChars ++ ['>'])) := by
  simp [chars, inside]

/-- Whether the names are names, and no value has a character that means something in markup. -/
def clean (t : Tag) : Bool :=
  t.name.toList.all isNameChar && t.attributes.all fun a =>
    a.1.toList.all isNameChar && a.2.all fun value => value.toList.all isPlain

def value? (name : String) (t : Tag) : Option String :=
  (t.attributes.lookup name).join

/-- Reads the attributes of a tag up to its end. A value ends at the next quote. -/
def readAttributes : (fuel : Nat) → List Char → Option (List (String × Option String))
  | _, ['>'] => some []
  | fuel + 1, ' ' :: s =>
    let name := String.ofList (s.takeWhile isNameChar)
    match s.dropWhile isNameChar with
    | '=' :: '"' :: r =>
      let value := String.ofList (r.takeWhile (· != '"'))
      match r.dropWhile (· != '"') with
      | '"' :: r' => (readAttributes fuel r').map ((name, some value) :: ·)
      | _ => none
    | r => (readAttributes fuel r).map ((name, none) :: ·)
  | _, _ => none

/-- Reads a tag with its brackets. -/
def read : List Char → Option Tag
  | '<' :: s =>
    (readAttributes s.length (s.dropWhile isNameChar)).map fun attributes =>
      ⟨String.ofList (s.takeWhile isNameChar), attributes⟩
  | _ => none

/-- The longest beginning of a text with a property, in front of a character without it. -/
theorem takeWhile_append_cons {p : Char → Bool} {s : List Char} (hs : s.all p) {c : Char}
    (hc : p c = false) (rest : List Char) : (s ++ c :: rest).takeWhile p = s := by
  rw [List.takeWhile_append_of_pos (List.all_eq_true.1 hs),
    List.takeWhile_cons_of_neg (by simp [hc]), List.append_nil]

theorem dropWhile_append_cons {p : Char → Bool} {s : List Char} (hs : s.all p) {c : Char}
    (hc : p c = false) (rest : List Char) : (s ++ c :: rest).dropWhile p = c :: rest := by
  rw [List.dropWhile_append_of_pos (List.all_eq_true.1 hs),
    List.dropWhile_cons_of_neg (by simp [hc])]

/-- What follows a name in a tag. -/
theorem exists_attributes_eq_cons (attributes : List (String × Option String)) :
    ∃ c rest, attributes.flatMap attributeChars ++ ['>'] = c :: rest ∧ (c = ' ' ∨ c = '>') := by
  rcases attributes with _ | ⟨⟨name, _ | value⟩, rest⟩
  · exact ⟨'>', [], rfl, .inr rfl⟩
  · exact ⟨' ', _, rfl, .inl rfl⟩
  · exact ⟨' ', _, rfl, .inl rfl⟩

theorem not_isNameChar_of_end {c : Char} (h : c = ' ' ∨ c = '>') : isNameChar c = false := by
  rcases h with rfl | rfl <;> decide

theorem ne_quote_of_plain {value : List Char} (h : value.all isPlain) :
    value.all (· != '"') := by
  rw [List.all_eq_true] at h ⊢
  intro c hc
  have := h c hc
  simp only [isPlain, Bool.and_eq_true] at this
  exact this.1.2

theorem readAttributes_chars :
    ∀ (attributes : List (String × Option String)) (fuel : Nat), attributes.length ≤ fuel →
      (attributes.all fun a =>
        a.1.toList.all isNameChar && a.2.all fun value => value.toList.all isPlain) →
      readAttributes fuel (attributes.flatMap attributeChars ++ ['>']) = some attributes
  | [], fuel, _, _ => by cases fuel <;> rfl
  | a :: rest, 0, hfuel, _ => by simp at hfuel
  | (name, none) :: rest, fuel + 1, hfuel, h => by
    simp only [List.all_cons, Bool.and_eq_true] at h
    obtain ⟨⟨hname, -⟩, hrest⟩ := h
    obtain ⟨c, tail, htail, hc⟩ := exists_attributes_eq_cons rest
    have ih := readAttributes_chars rest fuel (by simpa using hfuel) hrest
    have hwhole : ((name, none) :: rest).flatMap attributeChars ++ ['>'] =
        ' ' :: (name.toList ++ c :: tail) := by
      rw [← htail]
      simp [attributeChars]
    rw [htail] at ih
    rw [hwhole, readAttributes, takeWhile_append_cons hname (not_isNameChar_of_end hc),
      dropWhile_append_cons hname (not_isNameChar_of_end hc), String.ofList_toList]
    rcases hc with rfl | rfl <;> simp [ih]
  | (name, some value) :: rest, fuel + 1, hfuel, h => by
    simp only [List.all_cons, Bool.and_eq_true, Option.all_some] at h
    obtain ⟨⟨hname, hvalue⟩, hrest⟩ := h
    have ih := readAttributes_chars rest fuel (by simpa using hfuel) hrest
    have hwhole : ((name, some value) :: rest).flatMap attributeChars ++ ['>'] =
        ' ' :: (name.toList ++ '=' :: '"' :: (value.toList ++ '"' ::
          (rest.flatMap attributeChars ++ ['>']))) := by
      simp [attributeChars]
    rw [hwhole, readAttributes, takeWhile_append_cons hname (by decide),
      dropWhile_append_cons hname (by decide)]
    simp only [takeWhile_append_cons (ne_quote_of_plain hvalue) (by decide : ('"' != '"') = false),
      dropWhile_append_cons (ne_quote_of_plain hvalue) (by decide : ('"' != '"') = false),
      String.ofList_toList, ih, Option.map_some]

theorem length_le_length_attributes :
    ∀ attributes : List (String × Option String),
      attributes.length ≤ (attributes.flatMap attributeChars).length
  | [] => Nat.le_refl _
  | a :: rest => by
    have ih := length_le_length_attributes rest
    have hone : 1 ≤ (attributeChars a).length := by
      rcases a with ⟨name, _ | value⟩ <;> simp [attributeChars]
    simp only [List.flatMap_cons, List.length_append, List.length_cons]
    omega

/-- A clean tag is read back with all its values. -/
theorem read_chars {t : Tag} (h : t.clean) : read t.chars = some t := by
  simp only [clean, Bool.and_eq_true] at h
  obtain ⟨hname, hattributes⟩ := h
  obtain ⟨c, tail, htail, hc⟩ := exists_attributes_eq_cons t.attributes
  have hwhole : t.chars = '<' :: (t.name.toList ++ c :: tail) := by
    rw [← htail]
    simp [chars, inside]
  have hfuel : t.attributes.length ≤ (t.name.toList ++ c :: tail).length := by
    have := length_le_length_attributes t.attributes
    rw [← htail]
    simp only [List.length_append]
    omega
  rw [hwhole, read, takeWhile_append_cons hname (not_isNameChar_of_end hc),
    dropWhile_append_cons hname (not_isNameChar_of_end hc), ← htail,
    readAttributes_chars t.attributes _ (by simpa [htail] using hfuel) hattributes]
  simp

theorem notMem_inside {t : Tag} (h : t.clean) : '>' ∉ t.inside := by
  simp only [clean, Bool.and_eq_true] at h
  obtain ⟨hname, hattributes⟩ := h
  have hnames : ∀ s : List Char, s.all isNameChar → '>' ∉ s := by
    intro s hs hmem
    exact absurd (List.all_eq_true.1 hs _ hmem) (by decide)
  have hvalues : ∀ s : List Char, s.all isPlain → '>' ∉ s := by
    intro s hs hmem
    exact absurd (List.all_eq_true.1 hs _ hmem) (by decide)
  simp only [inside, List.mem_append, List.mem_flatMap, not_or, not_exists, not_and]
  refine ⟨hnames _ hname, ?_⟩
  rintro ⟨name, value⟩ ha
  have hclean := List.all_eq_true.1 hattributes _ ha
  simp only [Bool.and_eq_true] at hclean
  cases value with
  | none => simpa [attributeChars] using hnames _ hclean.1
  | some value =>
    have hv := hvalues _ hclean.2
    have hn := hnames _ hclean.1
    simp [attributeChars, hv, hn]

end Tag

/-! ## Cutting -/

mutual

/-- Cuts markup into the text in front of the first tag, and each tag with the text behind it. -/
def cut : List Char → List Char × List (List Char × List Char)
  | [] => ([], [])
  | c :: s =>
    if c = '<' then
      let (tag, text, rest) := cutTag s
      ([], ('<' :: tag, text) :: rest)
    else
      let (text, rest) := cut s
      (c :: text, rest)

/-- Cuts behind the beginning of a tag: the rest of the tag, and what is cut behind it. -/
def cutTag : List Char → List Char × List Char × List (List Char × List Char)
  | [] => ([], [], [])
  | c :: s =>
    if c = '>' then (['>'], cut s)
    else
      let (tag, rest) := cutTag s
      (c :: tag, rest)

end

theorem cut_append {text : List Char} (h : '<' ∉ text) (s : List Char) :
    cut (text ++ s) = (text ++ (cut s).1, (cut s).2) := by
  induction text with
  | nil => rfl
  | cons c text ih =>
    simp only [List.mem_cons, not_or] at h
    rw [List.cons_append, cut, if_neg (Ne.symm h.1), ih h.2]
    rfl

theorem cutTag_append {inside : List Char} (h : '>' ∉ inside) (s : List Char) :
    cutTag (inside ++ '>' :: s) = (inside ++ ['>'], cut s) := by
  induction inside with
  | nil => rw [List.nil_append, cutTag, if_pos rfl]; rfl
  | cons c inside ih =>
    simp only [List.mem_cons, not_or] at h
    rw [List.cons_append, cutTag, if_neg (Ne.symm h.1), ih h.2]
    rfl

/-- A tag with the text behind it. -/
structure Mark where
  tag : Tag
  text : String
  deriving DecidableEq, Repr

namespace Mark

/-- Whether the tag is clean, and nothing in the text means something in markup. -/
def clean (m : Mark) : Bool :=
  m.tag.clean && m.text.toList.all isPlain

def render (marks : List Mark) : List Char :=
  marks.flatMap fun m => m.tag.chars ++ m.text.toList

@[simp] theorem render_nil : render [] = [] := rfl

@[simp] theorem render_cons (m : Mark) (marks : List Mark) :
    render (m :: marks) = m.tag.chars ++ (m.text.toList ++ render marks) := by
  simp [render]

@[simp] theorem render_append (marks marks' : List Mark) :
    render (marks ++ marks') = render marks ++ render marks' :=
  List.flatMap_append

def plain (name text : String) : Mark :=
  ⟨⟨name, []⟩, text⟩

@[simp] theorem chars_plain (name text : String) :
    (plain name text).tag.chars = '<' :: (name.toList ++ ['>']) := by
  simp [plain]

@[simp] theorem text_plain (name text : String) : (plain name text).text = text := rfl

@[simp] theorem clean_mk (name text : String) (attributes : List (String × Option String)) :
    clean ⟨⟨name, attributes⟩, text⟩ =
      (name.toList.all isNameChar && (attributes.all fun a =>
        a.1.toList.all isNameChar && a.2.all fun value => value.toList.all isPlain) &&
        text.toList.all isPlain) :=
  rfl

@[simp] theorem clean_plain (name text : String) :
    (plain name text).clean = (name.toList.all isNameChar && text.toList.all isPlain) := by
  simp [plain]

theorem toList_join_map {α : Type} {f : α → String} {g : α → List Mark}
    (h : ∀ a, (f a).toList = render (g a)) (items : List α) :
    (String.join (items.map f)).toList = render (items.flatMap g) := by
  induction items with
  | nil => rfl
  | cons a items ih =>
    rw [List.map_cons, String.join_cons, String.toList_append, h, ih, List.flatMap_cons,
      render_append]

theorem clean_flatMap {α : Type} {g : α → List Mark} (h : ∀ a, (g a).all clean)
    (items : List α) : (items.flatMap g).all clean := by
  rw [List.all_flatMap, List.all_eq_true]
  exact fun a _ => h a

/-- Cutting written markup gives back its tags and texts. -/
theorem cut_render :
    ∀ marks : List Mark, marks.all clean →
      cut (render marks) = ([], marks.map fun m => (m.tag.chars, m.text.toList))
  | [], _ => rfl
  | m :: marks, h => by
    simp only [List.all_cons, clean, Bool.and_eq_true] at h
    obtain ⟨⟨htag, htext⟩, hmarks⟩ := h
    have hno : '<' ∉ m.text.toList := by
      intro hmem
      exact absurd (List.all_eq_true.1 htext _ hmem) (by decide)
    have hwhole : render (m :: marks) =
        '<' :: (m.tag.inside ++ '>' :: (m.text.toList ++ render marks)) := by
      simp [Tag.chars]
    rw [hwhole, cut, if_pos rfl, cutTag_append (Tag.notMem_inside htag), cut_append hno,
      cut_render marks hmarks]
    simp [Tag.chars]

end Mark

end Bistro
