import Bistro.Proofs.IntegerTokens
import Bistro.Proofs.PageMarkup
import Bistro.Proofs.Slots
import Bistro.Proofs.SortedMembers

/-!
# The details of a restaurant

Details are an object. Four of its members are fields, which come once at most and with their type;
all others are kept, the last one of each name (`IsDetails`). `RestaurantDetails.read` accepts a
text if and only if its value is such an object, and what it keeps is shown, a term for each member
(`RestaurantDetails.kept_and_shown`).
-/

namespace Bistro

/-- Whether members have at most one of a name, with a value of a type. -/
def Takes {α : Type} (json : α → Json) (members : List (String × Json)) (name : String) : Prop :=
  (members.filter fun m => m.1 = name).length ≤ 1 ∧ ∀ v, (name, v) ∈ members → ∃ a, v = json a

/-- What details are made of: a value or the default for each field, and each member of another name
in the order of the bytes of the names, with the value of its last occurrence. -/
structure IsDetails (members : List (String × Json)) (d : RestaurantDetails) : Prop where
  name : HasField .text "" members "restaurant_name" d.restaurantName
  location : HasField .text "" members "location" d.location
  style : HasField .text "" members "style" d.style
  capacity : HasField Json.int32 0 members "capacity" d.capacity
  sorted : d.extra.Pairwise fun a b => utf8 a.1 < utf8 b.1
  extra : ∀ name x, (name, x) ∈ d.extra ↔
    name ∉ ["restaurant_name", "location", "style", "capacity"] ∧
      ∃ v, IsLast members name v ∧ x = v.tidy

theorem exists_hasField_iff {α : Type} {json : α → Json} {default : α}
    {members : List (String × Json)} {name : String} :
    (∃ a, HasField json default members name a) ↔ Takes json members name := by
  have hmem : ∀ v, (name, v) ∈ members ↔ (name, v) ∈ members.filter fun m => m.1 = name := by
    simp
  unfold HasField Once Takes
  simp only [hmem, ← filter_name_eq_nil]
  generalize hnamed : members.filter (fun m => m.1 = name) = named
  rcases named with _ | ⟨m, _ | ⟨m', named⟩⟩
  · simp
  · obtain ⟨rfl, -⟩ := filter_name_eq_singleton.1 hnamed
    simp [Prod.ext_iff]
  · simp

/-- Leaving out members of other names does not change which one is the last. -/
theorem isLast_filter {names : List String} {name : String} {v : Json} :
    ∀ {members : List (String × Json)},
      IsLast (members.filter fun m => m.1 ∉ names) name v ↔ name ∉ names ∧ IsLast members name v
  | [] => by simp [not_isLast_nil]
  | m :: members => by
    have hnames : ∀ {name}, name ∉ names →
        (name ∉ (members.filter fun m => m.1 ∉ names).map Prod.fst ↔
          name ∉ members.map Prod.fst) := by
      intro name hname
      simp [hname]
    rw [List.filter_cons, isLast_cons]
    split_ifs with hm
    · rw [isLast_cons, isLast_filter]
      simp only [decide_eq_true_eq] at hm
      grind
    · rw [isLast_filter]
      simp only [decide_eq_true_eq, not_not] at hm
      grind

theorem forall₂_tidyMembers :
    ∀ members : List (String × Json),
      List.Forall₂ (fun m n => m.1 = n.1 ∧ n.2 = m.2.tidy) members (Json.tidyMembers members)
  | [] => .nil
  | _ :: members => .cons ⟨rfl, rfl⟩ (forall₂_tidyMembers members)

namespace RestaurantDetails

def readMember (levels : Nat) (state : fields.Slots × List (String × Json)) (name : String) :
    Json.Reader (fields.Slots × List (String × Json)) := fun s =>
  match fields.readMember levels state.1 name s with
  | some read => read.map fun x => ((x.1, state.2), x.2)
  | none =>
    (Json.readMemberValue (Json.readValue levels) s).map fun x =>
      ((state.1, (name, x.1) :: state.2), x.2)

/-- A member is read as it is gathered. -/
theorem readMember_iff (levels : Nat) (state : fields.Slots × List (String × Json))
    (name : String) (s : List Char) (state' : fields.Slots × List (String × Json))
    (rest : List Char) :
    readMember levels state name s = .ok (state', rest) ↔
      ∃ v, Json.readMemberValue (Json.readValue levels) s = .ok (v, rest) ∧
        fields.gather state (name, v) = some state' := by
  obtain ⟨inner, hinner⟩ := Json.readValue_eq_readWith levels
  have hscalars : fields.allScalars := rfl
  by_cases hname : name ∈ fields.names
  · have hfill : ∀ v, ∃ filled, fields.fill state.1 (name, v) = some filled := fun v =>
      Option.ne_none_iff_exists'.1 fun h => Fields.fill_eq_none_iff.1 h hname
    obtain ⟨read, hread⟩ : ∃ read, fields.readMember levels state.1 name s = some read :=
      Option.ne_none_iff_exists'.1 fun h => Fields.readMember_eq_none_iff.1 h hname
    simp only [readMember, hread, map_eq_ok_iff]
    constructor
    · rintro ⟨⟨slots, r⟩, rfl, h⟩
      cases h
      obtain ⟨v, hv, hslots⟩ := (Fields.readMember_iff hscalars).1 hread
      exact ⟨v, hinner ▸ hv, by simp [Fields.gather, hslots]⟩
    · rintro ⟨v, hv, hput⟩
      obtain ⟨filled, hslots⟩ := hfill v
      rw [Fields.gather, hslots] at hput
      obtain ⟨slots, rfl, h⟩ := Option.map_eq_some_iff.1 hput
      cases h
      have hok : fields.readMember levels state.1 name s = some (.ok (slots, rest)) :=
        (Fields.readMember_iff hscalars).2 ⟨v, hinner ▸ hv, hslots⟩
      exact ⟨(slots, rest), Option.some_inj.1 (hread.symm.trans hok), rfl⟩
  · have hread : fields.readMember levels state.1 name s = none :=
      Fields.readMember_eq_none_iff.2 hname
    have hfill : ∀ v, fields.fill state.1 (name, v) = none := fun v =>
      Fields.fill_eq_none_iff.2 hname
    simp only [readMember, hread, Fields.gather, hfill, map_eq_ok_iff]
    constructor
    · rintro ⟨⟨v, r⟩, hv, h⟩
      cases h
      exact ⟨v, hv, rfl⟩
    · rintro ⟨v, hv, h⟩
      cases h
      exact ⟨(v, rest), hv, rfl⟩

theorem nodup_names : fields.names.Nodup := by
  decide

/-- What the loop over the members ends with. -/
theorem readMembersWith_readMember_iff {levels fuel : Nat} {slots : fields.Slots}
    {extra : List (String × Json)} {s rest : List Char} :
    Json.readMembersWith (readMember levels) fuel true (fields.noSlots, []) s =
        .ok ((slots, extra), rest) ↔
      ∃ members : List (String × Json),
        Json.readMembersWith (Json.noteMember (Json.readValue levels)) fuel true [] s =
          .ok (members.reverse, rest) ∧
        fields.Filled fields.noSlots members slots ∧
        extra = (members.filter fun m => m.1 ∉ fields.names).reverse := by
  rw [Json.readMembersWith_iff (readMember_iff levels) fuel true _ _ []]
  simp only [List.append_nil, Fields.foldlM_gather_iff nodup_names]

theorem reader_succ (levels : Nat) (s : List Char) :
    reader (levels + 1) s =
      match Json.skipSpaces s with
      | '\x7b' :: r =>
        match Json.readMembersWith (readMember levels) (r.length + 1) true
          (fields.noSlots, []) r with
        | .error e => .error e
        | .ok ((slots, extra), r') =>
          match fields.complete slots with
          | .error field => .error (.behind '\x7d' (.missingField field) r')
          | .ok row => (Json.closeObject r').map fun r'' => (ofRow row extra.reverse, r'')
      | r => .error (Json.wrongTypeFault "struct RestaurantDetails" r) :=
  rfl

/-- Details are read if the value is an object from which its fields can be taken. -/
theorem reader_eq_ok_iff {levels : Nat} {s rest : List Char} {d : RestaurantDetails} :
    reader (levels + 1) s = .ok (d, rest) ↔
      ∃ members row, Json.readValue (levels + 1) s = .ok (.object members, rest) ∧
        fields.fitMembers members = some row ∧
        d = ofRow row (members.filter fun m => m.1 ∉ fields.names) := by
  rw [reader_succ]
  simp only [Json.readValue, Json.readWith_eq_object_iff, Json.readMembers_iff]
  split
  · rename_i r hs
    simp only [hs, List.cons.injEq, true_and]
    constructor
    · intro h
      split at h
      · cases h
      · rename_i slots extra r' hloop
        obtain ⟨members, hnoted, hfilled, rfl⟩ := readMembersWith_readMember_iff.1 hloop
        split at h
        · cases h
        · rename_i row hrow
          obtain ⟨r'', hclose, hd⟩ := map_eq_ok_iff.1 h
          cases hd
          exact ⟨members, row, ⟨r, rfl, r', hnoted, hclose⟩,
            Fields.complete_iff.1 ⟨slots, hfilled, hrow⟩, by rw [List.reverse_reverse]⟩
    · rintro ⟨members, row, ⟨_, rfl, r', hnoted, hclose⟩, hfits, rfl⟩
      obtain ⟨slots, hfilled, hrow⟩ := Fields.complete_iff.2 hfits
      rw [readMembersWith_readMember_iff.2 ⟨members, hnoted, hfilled, rfl⟩]
      simp only [hrow, hclose, List.reverse_reverse]
      rfl
  · rename_i hs
    simp only [reduceCtorEq, false_iff]
    rintro ⟨members, row, ⟨r, hr, -⟩, -⟩
    exact hs r hr

theorem fit_fields_iff {members : List (String × Json)} {name location style : String}
    {capacity : Int32} :
    fields.fitMembers members = some (name, location, style, capacity, ()) ↔
      HasField .text "" members "restaurant_name" name ∧
      HasField .text "" members "location" location ∧ HasField .text "" members "style" style ∧
      HasField Json.int32 0 members "capacity" capacity := by
  have hfields : fields.fitMembers members = some (name, location, style, capacity, ()) ↔
      HasField .text "" members "restaurant_name" name ∧
      HasField .text "" members "location" location ∧ HasField .text "" members "style" style ∧
      HasField Json.int32 0 members "capacity" capacity ∧
      Fields.nil.fitMembers members = some () :=
    Fields.fitMembers_text_iff.trans <| and_congr_right' <|
    Fields.fitMembers_text_iff.trans <| and_congr_right' <|
    Fields.fitMembers_text_iff.trans <| and_congr_right' Fields.fitMembers_integer_iff
  have hnil : Fields.nil.fitMembers members = some () := rfl
  rw [hfields, and_iff_left hnil]

theorem mem_kept_iff {members : List (String × Json)} {name : String} {x : Json} :
    (name, x) ∈ sortMembers (Json.tidyMembers (members.filter fun m => m.1 ∉ fields.names)) ↔
      name ∉ fields.names ∧ ∃ v, IsLast members name v ∧ x = v.tidy := by
  have hunique : ∀ (v x x' : Json), x = v.tidy → x' = v.tidy → x = x' := fun _ _ _ h h' =>
    h.trans h'.symm
  rw [mem_sortMembers, isLast_of_forall₂ hunique (forall₂_tidyMembers _)]
  simp only [isLast_filter, and_assoc, exists_and_left]

theorem ofRow_iff {members : List (String × Json)} {d : RestaurantDetails} :
    (∃ row, fields.fitMembers members = some row ∧
      d = ofRow row (members.filter fun m => m.1 ∉ fields.names)) ↔ IsDetails members d := by
  constructor
  · rintro ⟨⟨name, location, style, capacity, ⟨⟩⟩, hfits, rfl⟩
    obtain ⟨hname, hlocation, hstyle, hcapacity⟩ := fit_fields_iff.1 hfits
    exact ⟨hname, hlocation, hstyle, hcapacity, pairwise_sortMembers _, fun _ _ => mem_kept_iff⟩
  · intro h
    refine ⟨d.row, fit_fields_iff.2 ⟨h.name, h.location, h.style, h.capacity⟩, ?_⟩
    have hextra : d.extra =
        sortMembers (Json.tidyMembers (members.filter fun m => m.1 ∉ fields.names)) :=
      eq_of_pairwise_name h.sorted (pairwise_sortMembers _) fun name x =>
        (h.extra name x).trans mem_kept_iff.symm
    exact congrArg (RestaurantDetails.mk _ _ _ _) hextra

theorem read_eq_ok_iff {text : String} {d : RestaurantDetails} :
    read text = .ok d ↔ ∃ members, Json.read text = .ok (.object members) ∧ IsDetails members d := by
  have hread : ∀ rest, reader Json.maxLevels text.toList = .ok (d, rest) ↔
      ∃ members, Json.readValue Json.maxLevels text.toList = .ok (.object members, rest) ∧
        IsDetails members d := fun rest => by
    rw [Json.maxLevels, reader_eq_ok_iff]
    simp only [exists_and_left, ofRow_iff]
  unfold read Json.read
  simp only [Json.readAll_eq_ok_iff, hread]
  grind

/-- The text of details is accepted if and only if it is an object in which each field comes once at
most and with its type, an integer being written as one. Every field has its value or the default,
every other member is kept, and all of that is shown, a term for each member that is kept. -/
theorem kept_and_shown (text : String) :
    ((∃ d, read text = .ok d) ↔ ∃ members, Json.read text = .ok (.object members) ∧
      Takes .text members "restaurant_name" ∧ Takes .text members "location" ∧
      Takes .text members "style" ∧ Takes Json.int32 members "capacity") ∧
    (∀ d, read text = .ok d ↔
      ∃ members, Json.read text = .ok (.object members) ∧ IsDetails members d) ∧
    (∀ s n rest, Json.readNumber s = .ok (.integer n, rest) ↔
      s = Decimal.chars n ++ rest ∧ Json.EndsNumber rest ∧
        -9223372036854775808 ≤ n ∧ n ≤ 18446744073709551615) ∧
    ∀ d, read text = .ok d →
      cut (Fragment.detailsHtml d).toList = ([], (([.plain "h2" (escape d.restaurantName),
        .plain "/h2" "", .plain "dl" ""] ++ Fragment.termMarks "Location" (escape d.location) ++
        Fragment.termMarks "Style" (escape d.style) ++
        Fragment.termMarks "Capacity" (Fragment.integer d.capacity) ++
        d.extra.flatMap (fun m => Fragment.termMarks (escape m.1) (escape (Fragment.shown m.2))) ++
        [.plain "/dl" ""] : List Mark).map fun m => (m.tag.chars, m.text.toList))) := by
  refine ⟨?_, fun d => read_eq_ok_iff, fun s n rest => Json.readNumber_eq_integer_iff,
    fun d _ => ?_⟩
  · have htext : ∀ {members : List (String × Json)} {name : String},
        Takes .text members name ↔ ∃ s, HasField .text "" members name s :=
      exists_hasField_iff.symm
    have hinteger : ∀ {members : List (String × Json)} {name : String},
        Takes Json.int32 members name ↔ ∃ n, HasField Json.int32 0 members name n :=
      exists_hasField_iff.symm
    simp only [htext, hinteger]
    constructor
    · rintro ⟨d, hd⟩
      obtain ⟨members, hmembers, h⟩ := read_eq_ok_iff.1 hd
      exact ⟨members, hmembers, ⟨_, h.name⟩, ⟨_, h.location⟩, ⟨_, h.style⟩, ⟨_, h.capacity⟩⟩
    · rintro ⟨members, hmembers, ⟨name, hname⟩, ⟨location, hlocation⟩, ⟨style, hstyle⟩,
        ⟨capacity, hcapacity⟩⟩
      exact ⟨_, read_eq_ok_iff.2 ⟨members, hmembers, ofRow_iff.1
        ⟨_, fit_fields_iff.2 ⟨hname, hlocation, hstyle, hcapacity⟩, rfl⟩⟩⟩
  · rw [Fragment.toList_detailsHtml]
    exact Mark.cut_render _ (Fragment.clean_marks (.details d))

end RestaurantDetails

end Bistro
