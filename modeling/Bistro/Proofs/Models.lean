import Bistro.Proofs.Decoding

/-!
# The parts of the models

Every model that is a record is decoded by its parts: a text gives a model exactly if it spells a
record of the parts of that model, and neither the order of the members of an object nor those of
other names make a difference (`models_are_decoded_by_parts`).
-/

namespace Bistro

open Json (Tree)
open Json.Tree (Part)

def Review.parts (r : Review) : List Part :=
  [.required "user_name" (·.IsText r.userName),
    .optional "restaurant_name" (·.IsText r.restaurantName) (r.restaurantName = ""),
    .optional "review" (·.IsText r.review) (r.review = ""),
    .optional "rating" (·.IsInteger r.rating) (r.rating = 0)]

def ReviewRequest.parts (q : ReviewRequest) : List Part :=
  [.required "user_name" (·.IsText q.userName),
    .required "restaurant_name" (·.IsText q.restaurantName),
    .required "review" (·.IsText q.review), .required "rating" (·.IsInteger q.rating)]

def ReservationRequest.parts (q : ReservationRequest) : List Part :=
  [.required "user_name" (·.IsText q.userName),
    .required "restaurant_name" (·.IsText q.restaurantName),
    .required "year" (·.IsText q.year), .required "month" (·.IsText q.month),
    .required "day" (·.IsText q.day)]

def ReservationResponse.parts (r : ReservationResponse) : List Part :=
  [.optional "status" (·.IsBoolean r.status) (r.status = false)]

def ReservationDate.parts (d : ReservationDate) : List Part :=
  [.optional "year" (·.IsInteger d.year) (d.year = 0),
    .optional "month" (·.IsInteger d.month) (d.month = 0),
    .optional "day" (·.IsInteger d.day) (d.day = 0)]

def Reservation.parts (r : Reservation) : List Part :=
  [.optional "user_name" (·.IsText r.userName) (r.userName = ""),
    .optional "restaurant_name" (·.IsText r.restaurantName) (r.restaurantName = ""),
    .optional "time" (·.IsRecord r.time.parts) (r.time = ⟨0, 0, 0⟩)]

def RestaurantRequest.parts (q : RestaurantRequest) : List Part :=
  [.required "restaurant_name" (·.IsText q.restaurantName),
    .required "location" (·.IsText q.location), .required "style" (·.IsText q.style),
    .required "capacity" (·.IsInteger q.capacity)]

def PostStatus.parts (s : PostStatus) : List Part :=
  [.optional "status" (·.IsBoolean s.status) (s.status = false)]

def PopularRestaurants.parts (p : PopularRestaurants) : List Part :=
  [.optional "top_k_restaurants"
    (fun v => ∃ items, v = .list items ∧
      List.Forall₂ (fun s item => item.IsText s) p.topRestaurants items)
    (p.topRestaurants = [])]

namespace Json

theorem Unescapes.unique {body chars chars' : List Char} (h : Unescapes body chars)
    (h' : Unescapes body chars') : chars = chars' := by
  have hread {chars : List Char} (h : Unescapes body chars) :
      readText (body ++ ['"']) = .ok (String.ofList chars, []) :=
    (readText_iff h.isBody).2 ⟨rfl, by rwa [String.toList_ofList]⟩
  have heq := Except.ok.inj ((hread h).symm.trans (hread h'))
  exact String.ofList_injective (congrArg Prod.fst heq)

namespace Tree

theorem Named.unique : ∀ {members : List (List Char × Tree)} {named named' : List (String × Tree)},
    Named members named → Named members named' → named = named'
  | [], _, _, .nil, .nil => rfl
  | _ :: _, _ :: _, _ :: _, .cons ⟨hname, hv⟩ hmembers, .cons ⟨hname', hv'⟩ hmembers' => by
    have hnames := String.toList_injective (hname.unique hname')
    rw [unique hmembers hmembers', Prod.ext hnames (hv.symm.trans hv')]

theorem Named.isRecord_iff {members : List (List Char × Tree)} {named : List (String × Tree)}
    (h : Named members named) {parts : List Part} :
    (object members).IsRecord parts ↔ InMembers parts named := by
  rw [isRecord_object_iff]
  constructor
  · rintro ⟨named', hnamed, hparts⟩
    rwa [h.unique hnamed]
  · exact fun hparts => ⟨named, h, hparts⟩

/-- Only the members with the names of parts matter, in any order. -/
theorem inMembers_congr {parts : List Part} {named₁ named₂ : List (String × Tree)}
    (h : (named₁.filter (fun m => m.1 ∈ parts.map Part.name)).Perm
      (named₂.filter (fun m => m.1 ∈ parts.map Part.name))) :
    InMembers parts named₁ → InMembers parts named₂ := by
  intro hin p hp
  have hname : p.name ∈ parts.map Part.name := List.mem_map_of_mem hp
  have hone (named : List (String × Tree)) : named.filter (fun m => m.1 = p.name) =
      (named.filter (fun m => m.1 ∈ parts.map Part.name)).filter (fun m => m.1 = p.name) := by
    rw [List.filter_filter]
    refine List.filter_congr fun m _ => ?_
    by_cases hm : m.1 = p.name <;> simp_all
  have hperm := h.filter (fun m => m.1 = p.name)
  rw [← hone, ← hone] at hperm
  refine (hin p hp).imp ?_ ?_
  · rintro ⟨v, hv, hgiven⟩
    rw [hv] at hperm
    exact ⟨v, List.singleton_perm.1 hperm |>.symm, hgiven⟩
  · rintro ⟨hnone, homitted⟩
    rw [hnone] at hperm
    exact ⟨hperm.nil_eq.symm, homitted⟩

end Tree

end Json

/-- A model is decoded by its parts. -/
structure DecodedBy {α : Type} [Record α] (parts : α → List Part) : Prop where
  read_iff : ∀ {text : String} {v : Tree}, Json.Spelled text v → ∀ a : α,
    Record.read text = .ok a ↔ v.IsRecord (parts a)
  read_congr : ∀ {text₁ text₂ : String} {members₁ members₂ : List (List Char × Tree)}
    {named₁ named₂ : List (String × Tree)}, Json.Spelled text₁ (.object members₁) →
      Json.Spelled text₂ (.object members₂) → Tree.Named members₁ named₁ →
      Tree.Named members₂ named₂ → ∀ a : α,
      (named₁.filter (fun m => m.1 ∈ (parts a).map Part.name)).Perm
        (named₂.filter (fun m => m.1 ∈ (parts a).map Part.name)) →
      (Record.read text₁ = .ok a ↔ Record.read text₂ = .ok a)

namespace Record

variable {α : Type} [Record α]

theorem read_spelled_iff (hwithin : (shape α).within Json.maxLevels)
    (hmodel : ∀ a : α, ofValue (toValue a) = a) (hrow : ∀ x, toValue (ofValue x : α) = x)
    {text : String} {v : Tree} (h : Json.Spelled text v) (a : α) :
    read text = .ok a ↔ (shape α).Is (toValue a) v := by
  obtain ⟨rest, hv, hend⟩ := h
  have hread := Shape.read_spelled_iff hwithin v _ _ hv
  unfold read
  rw [map_eq_ok_iff]
  constructor
  · rintro ⟨x, hx, rfl⟩
    obtain ⟨r, hr, -⟩ := Json.readAll_eq_ok_iff.1 hx
    rw [hrow]
    exact ((hread x r).1 hr).2
  · intro ha
    exact ⟨toValue a, Json.readAll_eq_ok_iff.2 ⟨rest, (hread _ _).2 ⟨rfl, ha⟩, hend⟩, hmodel a⟩

theorem decodedBy {parts : α → List Part} (hwithin : (shape α).within Json.maxLevels)
    (hmodel : ∀ a : α, ofValue (toValue a) = a) (hrow : ∀ x, toValue (ofValue x : α) = x)
    (hparts : ∀ (a : α) (v : Tree), (shape α).Is (toValue a) v ↔ v.IsRecord (parts a)) :
    DecodedBy parts := by
  have hread {text : String} {v : Tree} (h : Json.Spelled text v) (a : α) :
      read text = .ok a ↔ v.IsRecord (parts a) :=
    (read_spelled_iff hwithin hmodel hrow h a).trans (hparts a v)
  refine ⟨hread, fun h₁ h₂ hnamed₁ hnamed₂ a hsame => ?_⟩
  rw [hread h₁, hread h₂, hnamed₁.isRecord_iff, hnamed₂.isRecord_iff]
  exact ⟨Tree.inMembers_congr hsame, Tree.inMembers_congr hsame.symm⟩

end Record

theorem Reservation.is_iff (r : Reservation) (v : Tree) :
    (Record.shape Reservation).Is (Record.toValue r) v ↔ v.IsRecord r.parts := by
  have htime : (Record.shape ReservationDate).Is (Record.toValue r.time) =
      (·.IsRecord r.time.parts) :=
    rfl
  have hempty : (Record.toValue r.time = (Record.shape ReservationDate).empty) =
      (r.time = ⟨0, 0, 0⟩) :=
    propext ⟨congrArg Record.ofValue, congrArg Record.toValue⟩
  rw [parts, ← htime, ← hempty]
  rfl

/-- Every model that is read as a record is decoded by its parts. -/
theorem models_are_decoded_by_parts :
    DecodedBy Review.parts ∧ DecodedBy ReservationDate.parts ∧ DecodedBy Reservation.parts ∧
      DecodedBy ReservationResponse.parts ∧ DecodedBy PostStatus.parts ∧
      DecodedBy PopularRestaurants.parts ∧ DecodedBy ReservationRequest.parts ∧
      DecodedBy RestaurantRequest.parts ∧ DecodedBy ReviewRequest.parts := by
  refine ⟨Record.decodedBy (by decide) (fun _ => rfl) (fun _ => rfl) fun _ _ => Iff.rfl,
    Record.decodedBy (by decide) (fun _ => rfl) (fun _ => rfl) fun _ _ => Iff.rfl,
    Record.decodedBy (by decide) (fun _ => rfl) (fun _ => rfl) Reservation.is_iff,
    Record.decodedBy (by decide) (fun _ => rfl) (fun _ => rfl) fun _ _ => Iff.rfl,
    Record.decodedBy (by decide) (fun _ => rfl) (fun _ => rfl) fun _ _ => Iff.rfl,
    Record.decodedBy (by decide) (fun _ => rfl) (fun _ => rfl) fun _ _ => Iff.rfl,
    Record.decodedBy (by decide) (fun _ => rfl) (fun _ => rfl) fun _ _ => Iff.rfl,
    Record.decodedBy (by decide) (fun _ => rfl) (fun _ => rfl) fun _ _ => Iff.rfl,
    Record.decodedBy (by decide) (fun _ => rfl) (fun _ => rfl) fun _ _ => Iff.rfl⟩

/-- A member that is no field may hold one half of a pair, and stand anywhere. -/
theorem review_is_decoded_among_others :
    let text := "\x7b\"rating\":-5,\"x\":[\"\\ud800\"],\"user_name\":\"Ann\"\x7d"
    let plain := "\x7b\"user_name\":\"Ann\",\"rating\":-5\x7d"
    let ann : Review := ⟨"Ann", "", "", -5⟩
    Record.read text = .ok ann ∧ Record.read plain = .ok ann := by
  intro text plain ann
  obtain ⟨hreview, -⟩ := models_are_decoded_by_parts
  let rating := Tree.number "-5".toList
  let other := Tree.list [.text "\\ud800".toList]
  let user := Tree.text "Ann".toList
  have hann : Json.Unescapes "Ann".toList "Ann".toList := Json.unescapes_self (by decide)
  have huser : Json.Unescapes "user_name".toList "user_name".toList :=
    Json.unescapes_self (by decide)
  have hrating : Json.Unescapes "rating".toList "rating".toList := Json.unescapes_self (by decide)
  have hx : Json.Unescapes "x".toList "x".toList := Json.unescapes_self (by decide)
  have hfive : "-5".toList = Decimal.chars (-5) := by decide
  have hnumber : Json.IsNumber "-5".toList := (Json.isIntegerToken_iff.2 hfive).1.isNumber
  have htext : Json.Spelled text (.object [("rating".toList, rating), ("x".toList, other),
      ("user_name".toList, user)]) := by
    unfold Json.Spelled
    simp [text, rating, other, user, Tree.Spells, Tree.SpellsMembers, Tree.SpellsItems, Json.Goes,
      Json.skipSpaces, Json.isSpace]
    exact ⟨hrating.isBody, ⟨hnumber, by decide, by decide⟩, hx.isBody, .code (n := 0xd800) rfl .nil,
      huser.isBody, hann.isBody⟩
  have hplain : Json.Spelled plain (.object [("user_name".toList, user),
      ("rating".toList, rating)]) := by
    unfold Json.Spelled
    simp [plain, rating, user, Tree.Spells, Tree.SpellsMembers, Json.Goes, Json.skipSpaces,
      Json.isSpace]
    exact ⟨huser.isBody, hann.isBody, hrating.isBody, hnumber, by decide, by decide⟩
  have hnamed : Tree.Named [("rating".toList, rating), ("x".toList, other),
      ("user_name".toList, user)] [("rating", rating), ("x", other), ("user_name", user)] :=
    .cons ⟨hrating, rfl⟩ (.cons ⟨hx, rfl⟩ (.cons ⟨huser, rfl⟩ .nil))
  have hparts : Tree.InMembers ann.parts
      [("rating", rating), ("x", other), ("user_name", user)] := by
    simp [Tree.InMembers, Review.parts, Part.required, Part.optional, ann]
    exact ⟨⟨_, rfl, hann⟩, Json.Tree.isInteger_number_iff.2 hfive⟩
  have hread := (hreview.read_iff htext ann).2 (hnamed.isRecord_iff.2 hparts)
  have hnamed' : Tree.Named [("user_name".toList, user), ("rating".toList, rating)]
      [("user_name", user), ("rating", rating)] :=
    .cons ⟨huser, rfl⟩ (.cons ⟨hrating, rfl⟩ .nil)
  refine ⟨hread, (hreview.read_congr hplain htext hnamed' hnamed ann ?_).2 hread⟩
  simp [Review.parts, Part.required, Part.optional]
  exact .swap _ _ _

/-- The zero with a sign is no integer, and one half of a pair neither a text nor a name, though
the grammar has them all. -/
theorem signed_zero_and_half_pairs_are_refused :
    let signed := [("user_name".toList, Tree.text "Ann".toList),
      ("rating".toList, .number "-0".toList)]
    let half := [("user_name".toList, Tree.text "\\ud800".toList)]
    let name := [("\\ud800".toList, Tree.null)]
    (Json.Spelled "\x7b\"user_name\":\"Ann\",\"rating\":-0\x7d" (.object signed) ∧
      Json.IsIntegerToken "-0".toList 0 ∧
      ∀ r : Review, Record.read "\x7b\"user_name\":\"Ann\",\"rating\":-0\x7d" ≠ .ok r) ∧
    (Json.Spelled "\x7b\"user_name\":\"\\ud800\"\x7d" (.object half) ∧
      ∀ r : Review, Record.read "\x7b\"user_name\":\"\\ud800\"\x7d" ≠ .ok r) ∧
    Json.Spelled "\x7b\"\\ud800\":null\x7d" (.object name) ∧
      ∀ s : PostStatus, Record.read "\x7b\"\\ud800\":null\x7d" ≠ .ok s := by
  intro signed half name
  have hreview : DecodedBy Review.parts :=
    Record.decodedBy (by decide) (fun _ => rfl) (fun _ => rfl) fun _ _ => Iff.rfl
  have hstatus : DecodedBy PostStatus.parts :=
    Record.decodedBy (by decide) (fun _ => rfl) (fun _ => rfl) fun _ _ => Iff.rfl
  have hann : Json.Unescapes "Ann".toList "Ann".toList := Json.unescapes_self (by decide)
  have huser : Json.Unescapes "user_name".toList "user_name".toList :=
    Json.unescapes_self (by decide)
  have hrating : Json.Unescapes "rating".toList "rating".toList := Json.unescapes_self (by decide)
  have hzero : Json.IsIntegerToken "-0".toList 0 := .minus (Json.isWhole_digits 0)
  have hbody : Json.IsBody "\\ud800".toList := .code (n := 0xd800) rfl .nil
  have hpair {chars : List Char} : ¬ Json.Unescapes "\\ud800".toList chars :=
    Json.not_unescapes_firstHalf (n := 0xd800) rfl (by decide)
  have hspelled₁ : Json.Spelled "\x7b\"user_name\":\"Ann\",\"rating\":-0\x7d" (.object signed) := by
    unfold Json.Spelled
    simp [signed, Tree.Spells, Tree.SpellsMembers, Json.Goes, Json.skipSpaces, Json.isSpace]
    exact ⟨huser.isBody, hann.isBody, hrating.isBody, hzero.isNumber, by decide, by decide⟩
  have hspelled₂ : Json.Spelled "\x7b\"user_name\":\"\\ud800\"\x7d" (.object half) := by
    unfold Json.Spelled
    simp [half, Tree.Spells, Tree.SpellsMembers, Json.Goes, Json.skipSpaces, Json.isSpace]
    exact ⟨huser.isBody, hbody⟩
  have hspelled₃ : Json.Spelled "\x7b\"\\ud800\":null\x7d" (.object name) := by
    unfold Json.Spelled
    simp [name, Tree.Spells, Tree.SpellsMembers, Json.Goes, Json.skipSpaces, Json.isSpace]
    exact hbody
  refine ⟨⟨hspelled₁, hzero, fun r h => ?_⟩, ⟨hspelled₂, fun r h => ?_⟩, hspelled₃, fun s h => ?_⟩
  · have hnamed : Tree.Named signed
        [("user_name", .text "Ann".toList), ("rating", .number "-0".toList)] :=
      .cons ⟨huser, rfl⟩ (.cons ⟨hrating, rfl⟩ .nil)
    have hparts := hnamed.isRecord_iff.1 ((hreview.read_iff hspelled₁ r).1 h)
    simp [Tree.InMembers, Review.parts, Part.required, Part.optional] at hparts
    obtain ⟨-, -, -, _, ⟨⟩, -, hne⟩ := hparts
    exact hne rfl
  · have hnamed : Tree.Named half [("user_name", .text "\\ud800".toList)] :=
      .cons ⟨huser, rfl⟩ .nil
    have hparts := hnamed.isRecord_iff.1 ((hreview.read_iff hspelled₂ r).1 h)
    simp [Tree.InMembers, Review.parts, Part.required, Part.optional] at hparts
    obtain ⟨⟨_, ⟨⟩, htext⟩, -⟩ := hparts
    exact hpair htext
  · obtain ⟨_, hnamed, -⟩ := Tree.isRecord_object_iff.1 ((hstatus.read_iff hspelled₃ s).1 h)
    obtain ⟨_, _, ⟨hname, -⟩, -, -⟩ := List.forall₂_cons_left_iff.1 hnamed
    exact hpair hname

end Bistro
