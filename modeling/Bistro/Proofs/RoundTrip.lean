import Bistro.Model.Reservation
import Bistro.Proofs.Details
import Bistro.Proofs.Printed
import Bistro.Proofs.ReviewForms

/-!
# Models read back

A shape of which no record gives one name to two fields reads what it writes, within as many levels
as it has: by way of a value (`Shape.fit_json`) and from a text (`Shape.read_chars`). So every model
is read from the text it is written as, and so are the details of a restaurant with all that they
keep, and lists of reviews (`models_are_read_back`).
-/

namespace Bistro

mutual

/-- Whether the values of a shape have at most that many levels of lists and records, and no record
gives one name to two fields. -/
def Shape.within : Shape → Nat → Bool
  | .text, _ => true
  | .boolean, _ => true
  | .integer, _ => true
  | .list item, levels => decide (0 < levels) && item.within (levels - 1)
  | .record _ fields, levels => decide (0 < levels) && fields.within (levels - 1)

def Fields.within : Fields → Nat → Bool
  | .nil, _ => true
  | .cons name _ shape rest, levels =>
    decide (name ∉ rest.names) && (shape.within levels && rest.within levels)

end

theorem Shape.within_list {item : Shape} {levels : Nat} (h : (list item).within levels) :
    ∃ inner, levels = inner + 1 ∧ item.within inner := by
  simp only [within, Bool.and_eq_true, decide_eq_true_eq] at h
  exact ⟨levels - 1, by omega, h.2⟩

theorem Shape.within_record {name : String} {fields : Fields} {levels : Nat}
    (h : (record name fields).within levels) :
    ∃ inner, levels = inner + 1 ∧ fields.within inner := by
  simp only [within, Bool.and_eq_true, decide_eq_true_eq] at h
  exact ⟨levels - 1, by omega, h.2⟩

namespace Fields

theorem within_cons_iff {name : String} {required : Bool} {shape : Shape} {rest : Fields}
    {levels : Nat} :
    (cons name required shape rest).within levels ↔
      name ∉ rest.names ∧ shape.within levels ∧ rest.within levels := by
  simp only [within, Bool.and_eq_true, decide_eq_true_eq]

theorem nodup_names_of_within : ∀ {fields : Fields} {levels : Nat}, fields.within levels →
    fields.names.Nodup
  | .nil, _, _ => List.nodup_nil
  | .cons _ _ _ _, _, h => by
    obtain ⟨hname, -, hrest⟩ := within_cons_iff.1 h
    exact List.nodup_cons.2 ⟨hname, nodup_names_of_within hrest⟩

theorem map_fst_members :
    ∀ {fields : Fields} (row : fields.Row), (fields.members row).map Prod.fst = fields.names
  | .nil, _ => rfl
  | .cons name _ _ _, (_, row) => congrArg (name :: ·) (map_fst_members row)

theorem name_mem_names {fields : Fields} {row : fields.Row} {m : String × Json}
    (h : m ∈ fields.members row) : m.1 ∈ fields.names :=
  map_fst_members row ▸ List.mem_map_of_mem h

end Fields

mutual

/-- What is written for a shape has no more levels than the shape. -/
theorem Shape.fits_json : ∀ {shape : Shape} {levels : Nat}, shape.within levels →
    ∀ x : shape.Value, Json.Fits levels (shape.json x)
  | .text, levels, _, s => .text levels s
  | .boolean, levels, _, b => .boolean levels b
  | .integer, levels, _, n => .integer levels _ (by
    have hlow := Int32.le_toInt n
    have hhigh := Int32.toInt_lt n
    omega)
  | .list item, levels, h, xs => by
    obtain ⟨inner, rfl, hitem⟩ := Shape.within_list h
    refine .list fun v hv => ?_
    obtain ⟨x, -, rfl⟩ := List.mem_map.1 hv
    exact Shape.fits_json hitem x
  | .record name fields, levels, h, row => by
    obtain ⟨inner, rfl, hfields⟩ := Shape.within_record h
    exact .object (Fields.fits_members hfields row)

theorem Fields.fits_members : ∀ {fields : Fields} {levels : Nat}, fields.within levels →
    ∀ row : fields.Row, ∀ m ∈ fields.members row, Json.Fits levels m.2
  | .nil, _, _, _, _, hm => by cases hm
  | .cons name _ shape rest, levels, h, (v, row), m, hm => by
    obtain ⟨-, hshape, hrest⟩ := Fields.within_cons_iff.1 h
    rcases List.mem_cons.1 hm with rfl | hm
    · exact Shape.fits_json hshape v
    · exact Fields.fits_members hrest row m hm

end

theorem once_of_notMem {name : String} {v : Json} {before after : List (String × Json)}
    (h : ∀ m ∈ before ++ after, m.1 ≠ name) : Once (before ++ (name, v) :: after) name v := by
  have hnone : ∀ {members : List (String × Json)}, (∀ m ∈ members, m.1 ≠ name) →
      members.filter (fun m => m.1 = name) = [] := fun h =>
    List.filter_eq_nil_iff.2 fun m hm => by simpa using h m hm
  rw [Once, List.filter_append, List.filter_cons_of_pos (by simp),
    hnone fun m hm => h m (List.mem_append_left _ hm),
    hnone fun m hm => h m (List.mem_append_right _ hm), List.nil_append]

mutual

theorem Shape.fit_json : ∀ {shape : Shape} {levels : Nat}, shape.within levels →
    ∀ x : shape.Value, shape.fit (shape.json x) = some x
  | .text, _, _, _ => rfl
  | .boolean, _, _, _ => rfl
  | .integer, _, _, _ => Shape.fit_integer_iff.2 rfl
  | .list item, _, h, xs => by
    obtain ⟨inner, rfl, hitem⟩ := Shape.within_list h
    refine (ReviewList.mapM_eq_some_iff fun _ _ => Iff.rfl).2 ?_
    exact List.forall₂_map_left_iff.2 (List.forall₂_same.2 fun x _ => Shape.fit_json hitem x)
  | .record name fields, _, h, row => by
    obtain ⟨inner, rfl, hfields⟩ := Shape.within_record h
    have hrow := Fields.fitMembers_members hfields row [] [] nofun
    rw [List.nil_append, List.append_nil] at hrow
    exact hrow

/-- A record is taken from its members wherever they stand among others. -/
theorem Fields.fitMembers_members : ∀ {fields : Fields} {levels : Nat}, fields.within levels →
    ∀ (row : fields.Row) (before after : List (String × Json)),
      (∀ m ∈ before ++ after, m.1 ∉ fields.names) →
      fields.fitMembers (before ++ fields.members row ++ after) = some row
  | .nil, _, _, _, _, _, _ => rfl
  | .cons name required shape rest, levels, h, (v, row), before, after, hothers => by
    obtain ⟨hname, hshape, hrest⟩ := Fields.within_cons_iff.1 h
    have hmembers : before ++ (Fields.cons name required shape rest).members (v, row) ++ after =
        before ++ (name, shape.json v) :: (rest.members row ++ after) := by
      simp [Fields.members]
    have hthis : ∀ m ∈ before ++ (rest.members row ++ after), m.1 ≠ name := by
      rintro m hm rfl
      rw [← List.append_assoc, List.mem_append] at hm
      simp only [List.mem_append] at hm hothers
      rcases hm with (hm | hm) | hm
      · exact hothers m (.inl hm) List.mem_cons_self
      · exact hname (Fields.name_mem_names hm)
      · exact hothers m (.inr hm) List.mem_cons_self
    have hbehind : rest.fitMembers
        ((before ++ [(name, shape.json v)]) ++ rest.members row ++ after) = some row := by
      refine Fields.fitMembers_members hrest row _ _ fun m hm hin => ?_
      simp only [List.mem_append, List.mem_singleton] at hm hothers
      rcases hm with (hm | rfl) | hm
      · exact hothers m (.inl hm) (List.mem_cons_of_mem _ hin)
      · exact hname hin
      · exact hothers m (.inr hm) (List.mem_cons_of_mem _ hin)
    rw [List.append_assoc, List.append_assoc, List.singleton_append] at hbehind
    rw [hmembers]
    exact Fields.fitMembers_cons_iff.2
      ⟨.inl ⟨_, once_of_notMem hthis, Shape.fit_json hshape v⟩, hbehind⟩

end

theorem Shape.read_scalar_chars {shape : Shape} {levels : Nat} (hscalar : shape.isScalar)
    (h : shape.within 0) (x : shape.Value) {rest : List Char} (hrest : Json.EndsNumber rest) :
    shape.read levels ((shape.json x).chars ++ rest) = .ok (x, rest) :=
  (read_scalar_iff hscalar).2
    ⟨shape.json x, Json.readValue_chars (fits_json h x) rest hrest, fit_json h x⟩

theorem Fields.foldlM_fill {fields : Fields} (hn : fields.names.Nodup) :
    ∀ {members : List (String × Json)} {slots slots' : fields.Slots},
      (∀ m ∈ members, m.1 ∈ fields.names) → fields.Filled slots members slots' →
      members.foldlM (fun slots m => (fields.fill slots m).join) slots = some slots'
  | [], _, _, _, h => congrArg some (filled_nil_iff.1 h).symm
  | m :: members, slots, slots', hnames, h => by
    obtain ⟨hm, hnames⟩ := List.forall_mem_cons.1 hnames
    obtain ⟨slots₁, hfill, hrest⟩ := (filled_cons_iff hn hm).1 h
    rw [List.foldlM_cons, hfill]
    exact foldlM_fill hn hnames hrest

/-- A record is read from its members if each of them is read into its slot. -/
theorem Shape.read_record_chars {name : String} {fields : Fields} {levels : Nat}
    (hn : fields.names.Nodup) {row : fields.Row}
    (hrow : fields.fitMembers (fields.members row) = some row)
    (hmembers : ∀ m ∈ fields.members row, ∀ slots slots' rest,
      fields.fill slots m = some (some slots') → Json.EndsNumber rest →
      fields.readMember levels slots m.1 (':' :: (m.2.chars ++ rest)) = some (.ok (slots', rest)))
    (rest : List Char) :
    (record name fields).read (levels + 1) (((record name fields).json row).chars ++ rest) =
      .ok (row, rest) := by
  obtain ⟨slots, hfilled, hcomplete⟩ := Fields.complete_iff.2 hrow
  have hreads : ∀ m ∈ fields.members row, Json.ReadsMember
      (fun slots field r => (fields.readMember levels slots field r).getD
        (((Json.readColon r).bind Json.skipValue).map fun r' => (slots, r')))
      (fun slots m => (fields.fill slots m).join) m := by
    intro m hm slots slots' rest hput hrest
    have hfill : fields.fill slots m = some (some slots') := Option.join_eq_some_iff.1 hput
    simp only [hmembers m hm slots slots' rest hfill hrest, Option.getD_some]
  -- every member has a field, so that none of them is passed over
  have hloop := Json.readMembersWith_chars hreads
    (Fields.foldlM_fill hn (fun _ hm => Fields.name_mem_names hm) hfilled) rest
  have hopen : ((record name fields).json row).chars ++ rest =
      '\x7b' :: (Json.memberChars (fields.members row) ++ '\x7d' :: rest) := by
    simp [json, Json.chars]
  have hspace : Json.skipSpaces ('\x7b' :: (Json.memberChars (fields.members row) ++
      '\x7d' :: rest)) = '\x7b' :: (Json.memberChars (fields.members row) ++ '\x7d' :: rest) := rfl
  rw [hopen, read]
  simp only [hspace, Nat.add_one_ne_zero, if_false, Nat.add_sub_cancel, hloop, hcomplete]
  rfl

mutual

theorem Shape.read_chars : ∀ {shape : Shape} {levels : Nat}, shape.within levels →
    ∀ (x : shape.Value) (rest : List Char), Json.EndsNumber rest →
      shape.read levels ((shape.json x).chars ++ rest) = .ok (x, rest)
  | .text, _, _, x, _, hrest => Shape.read_scalar_chars rfl rfl x hrest
  | .boolean, _, _, x, _, hrest => Shape.read_scalar_chars rfl rfl x hrest
  | .integer, _, _, x, _, hrest => Shape.read_scalar_chars rfl rfl x hrest
  | .list item, _, h, xs, rest, _ => by
    obtain ⟨inner, rfl, hitem⟩ := Shape.within_list h
    have hopen : ((Shape.list item).json xs).chars ++ rest =
        '[' :: (Json.itemChars (xs.map item.json) ++ ']' :: rest) := by
      simp [Shape.json, Json.chars]
    have hspace : Json.skipSpaces ('[' :: (Json.itemChars (xs.map item.json) ++ ']' :: rest)) =
        '[' :: (Json.itemChars (xs.map item.json) ++ ']' :: rest) := rfl
    rw [hopen, Shape.read]
    simp only [hspace, Nat.add_one_ne_zero, Nat.add_sub_cancel]
    exact Json.readItems_chars item.json
      (fun x _ => ⟨(Shape.fits_json hitem x).startsValue, Shape.read_chars hitem x⟩) rest
  | .record name fields, _, h, row, rest, _ => by
    obtain ⟨inner, rfl, hfields⟩ := Shape.within_record h
    have hrow := Fields.fitMembers_members hfields row [] [] nofun
    rw [List.nil_append, List.append_nil] at hrow
    exact Shape.read_record_chars (Fields.nodup_names_of_within hfields) hrow
      (fun m hm => Fields.readMember_chars hfields row hm) rest

theorem Fields.readMember_chars : ∀ {fields : Fields} {levels : Nat}, fields.within levels →
    ∀ (row : fields.Row) {m : String × Json}, m ∈ fields.members row →
      ∀ (slots slots' : fields.Slots) (rest : List Char), fields.fill slots m = some (some slots') →
        Json.EndsNumber rest →
        fields.readMember levels slots m.1 (':' :: (m.2.chars ++ rest)) = some (.ok (slots', rest))
  | .nil, _, _, _, _, hm, _, _, _, _, _ => by cases hm
  | .cons name _ shape fields, levels, h, (v, row), m, hm, (slot, slots), (slot', slots'), rest,
      hfill, hrest => by
    obtain ⟨hname, hshape, hfields⟩ := Fields.within_cons_iff.1 h
    rw [Fields.fill_cons] at hfill
    rw [Fields.readMember_cons]
    rcases List.mem_cons.1 hm with rfl | hin
    · -- the slot is still empty, or it would not have been filled
      rw [if_pos rfl] at hfill ⊢
      have hread := Shape.read_chars hshape v rest hrest
      have hcolon : (Json.readColon (':' :: ((shape.json v).chars ++ rest))).bind
          (shape.read levels) = .ok (v, rest) := hread
      cases slot with
      | some _ => cases hfill
      | none =>
        obtain ⟨v', hv', hslots⟩ := Option.map_eq_some_iff.1 (Option.some_inj.1 hfill)
        obtain rfl : v = v' := Option.some_inj.1 ((Shape.fit_json hshape v).symm.trans hv')
        cases hslots
        rw [hcolon]
        rfl
    · have hne : m.1 ≠ name := by
        rintro rfl
        exact hname (Fields.name_mem_names hin)
      rw [if_neg hne] at hfill ⊢
      obtain ⟨filled, hrestFill, hfilled⟩ := Option.map_eq_some_iff.1 hfill
      obtain ⟨slots₁, rfl, hslots⟩ := Option.map_eq_some_iff.1 hfilled
      cases hslots
      rw [Fields.readMember_chars hfields row hin slots slots' rest hrestFill hrest]
      rfl

end

namespace Record

variable {α : Type} [Record α]

/-- A model that is written as a record is read back, if the record holds all that is in it. -/
theorem read_write (hwithin : (shape α).within Json.maxLevels)
    (hvalue : ∀ a : α, ofValue (toValue a) = a) (a : α) : read (write a) = .ok a := by
  refine map_eq_ok_iff.2 ⟨toValue a, Json.readAll_eq_ok_iff.2 ⟨[], ?_, rfl⟩, hvalue a⟩
  have hread := Shape.read_chars hwithin (toValue a) [] ⟨by decide, by decide⟩
  rwa [List.append_nil, ← String.toList_ofList (l := (Shape.json _ _).chars)] at hread

end Record

namespace RestaurantDetails

/-- Whether the further members of details are what a text may have: values sorted by name, none of
them with the name of a field, all within the levels of a text and with no other numbers than
integers of 64 bits. -/
structure Writable (d : RestaurantDetails) : Prop where
  sorted : d.extra.Pairwise fun a b => utf8 a.1 < utf8 b.1
  tidy : ∀ m ∈ d.extra, m.2.tidy = m.2
  others : ∀ m ∈ d.extra, m.1 ∉ ["restaurant_name", "location", "style", "capacity"]
  fits : ∀ m ∈ d.extra, Json.Fits (Json.maxLevels - 1) m.2

theorem tidyMembers_of_tidy :
    ∀ {members : List (String × Json)}, (∀ m ∈ members, m.2.tidy = m.2) →
      Json.tidyMembers members = members
  | [], _ => rfl
  | (name, v) :: members, h => by
    obtain ⟨hv, hmembers⟩ := List.forall_mem_cons.1 h
    rw [Json.tidyMembers, hv, tidyMembers_of_tidy hmembers]

variable {d : RestaurantDetails}

theorem Writable.isDetails (h : d.Writable) : IsDetails (fields.members d.row ++ d.extra) d := by
  have hwithin : fields.within 0 := by decide
  have hfit := Fields.fitMembers_members hwithin d.row [] d.extra h.others
  refine ofRow_iff.1 ⟨d.row, hfit, ?_⟩
  have hextra : (fields.members d.row ++ d.extra).filter (fun m => m.1 ∉ fields.names) =
      d.extra := by
    rw [List.filter_append, List.filter_eq_nil_iff.2 fun m hm => by
      simpa using Fields.name_mem_names hm, List.nil_append]
    exact List.filter_eq_self.2 fun m hm => decide_eq_true (h.others m hm)
  rw [hextra]
  simp only [ofRow, tidyMembers_of_tidy h.tidy, sortMembers_of_pairwise h.sorted]
  rfl

theorem Writable.fits_json (h : d.Writable) : Json.Fits Json.maxLevels d.json := by
  have hwithin : fields.within (Json.maxLevels - 1) := by decide
  exact .object fun m hm =>
    (List.mem_append.1 hm).elim (Fields.fits_members hwithin d.row m) (h.fits m)

theorem read_write (h : d.Writable) : read d.json.write = .ok d :=
  read_eq_ok_iff.2 ⟨_, Json.read_write h.fits_json, h.isDetails⟩

end RestaurantDetails

namespace ReviewList

theorem read_write (list : ReviewList) : read list.json.write = .ok list := by
  have hwithin : (Record.shape Review).within (Json.maxLevels - 1) := by decide
  have hfits : Json.Fits Json.maxLevels list.json := .list fun v hv => by
    obtain ⟨r, -, rfl⟩ := List.mem_map.1 hv
    exact Shape.fits_json hwithin _
  have hreviews : List.Forall₂ IsReview (list.reviews.map Record.json) list.reviews :=
    List.forall₂_map_left_iff.2 (List.forall₂_same.2 fun r _ => fit_review_iff.1
      (Option.map_eq_some_iff.2 ⟨_, Shape.fit_json hwithin _, rfl⟩))
  exact read_eq_ok_iff.2 ⟨_, Json.read_write hfits, ofJson_iff.2 (.many hreviews)⟩

end ReviewList

/-- Every model is read from the text it is written as, and every list of reviews in its order; so
are JSON values, within the levels of a text, if their numbers are integers of 64 bits. -/
theorem models_are_read_back :
    (∀ v : Json, Json.Fits Json.maxLevels v → Json.read v.write = .ok v) ∧
    (∀ r : Review, Record.read (Record.write r) = .ok r) ∧
    (∀ d : ReservationDate, Record.read (Record.write d) = .ok d) ∧
    (∀ r : Reservation, Record.read (Record.write r) = .ok r) ∧
    (∀ q : ReservationRequest, Record.read (Record.write q) = .ok q) ∧
    (∀ r : ReservationResponse, Record.read (Record.write r) = .ok r) ∧
    (∀ s : PostStatus, Record.read (Record.write s) = .ok s) ∧
    (∀ p : PopularRestaurants, Record.read (Record.write p) = .ok p) ∧
    (∀ q : RestaurantRequest, Record.read (Record.write q) = .ok q) ∧
    (∀ q : ReviewRequest, Record.read (Record.write q) = .ok q) ∧
    (∀ d : RestaurantDetails, d.Writable → RestaurantDetails.read d.json.write = .ok d) ∧
    ∀ list : ReviewList, ReviewList.read list.json.write = .ok list :=
  ⟨fun _ => Json.read_write, Record.read_write (by decide) fun _ => rfl,
    Record.read_write (by decide) fun _ => rfl, Record.read_write (by decide) fun _ => rfl,
    Record.read_write (by decide) fun _ => rfl, Record.read_write (by decide) fun _ => rfl,
    Record.read_write (by decide) fun _ => rfl, Record.read_write (by decide) fun _ => rfl,
    Record.read_write (by decide) fun _ => rfl, Record.read_write (by decide) fun _ => rfl,
    fun _ => RestaurantDetails.read_write, ReviewList.read_write⟩

/-- A control character, an escape that is no escape, and the ends of the ranges of integers. -/
theorem hours_are_read_back :
    let d : RestaurantDetails := ⟨"Cafe \"X\"\n", "", "bar\x01", -2147483648,
      [("hours", .object [("mon", .list [.number (.integer 18446744073709551615), .null]),
        ("tue", .text "\\u0041")]), ("open", .boolean true)]⟩
    d.Writable ∧ RestaurantDetails.read d.json.write = .ok d ∧
      Json.Fits Json.maxLevels d.json ∧ Json.read d.json.write = .ok d.json := by
  intro d
  have htidy : ∀ m ∈ d.extra, m.2.tidy = m.2 :=
    List.forall_mem_cons.2 ⟨rfl, List.forall_mem_singleton.2 rfl⟩
  have hfits : ∀ m ∈ d.extra, Json.Fits (Json.maxLevels - 1) m.2 := by
    refine List.forall_mem_cons.2 ⟨.object ?_, List.forall_mem_singleton.2 (.boolean _ _)⟩
    refine List.forall_mem_cons.2 ⟨.list ?_, List.forall_mem_singleton.2 (.text _ _)⟩
    exact List.forall_mem_cons.2 ⟨.integer _ _ (by decide), List.forall_mem_singleton.2 (.null _)⟩
  have hd : d.Writable := ⟨by decide, htidy, by decide, hfits⟩
  obtain ⟨hvalue, -, -, -, -, -, -, -, -, -, hdetails, -⟩ := models_are_read_back
  exact ⟨hd, hdetails d hd, hd.fits_json, hvalue d.json hd.fits_json⟩

end Bistro
