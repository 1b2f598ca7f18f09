import Bistro.Model.Review
import Bistro.Proofs.Fitting
import Bistro.Proofs.Reading
import Bistro.Proofs.SortedMembers

/-!
# The forms of a list of reviews

What a review is in JSON (`IsReview`), which values list reviews, and which reviews those are
(`Lists`), said without the order in which a reader tries the forms. `ReviewList.read` accepts a
text if and only if its value lists reviews, and gives those (`ReviewList.read_exact`).
-/

namespace Bistro

/-- A review is an object that names its user, or a list of one to four of the fields in their
order. Fields that are absent are empty, and members with other names do not matter. -/
inductive IsReview : Json → Review → Prop
  | object {members : List (String × Json)} {r : Review}
      (user : Once members "user_name" (.text r.userName))
      (restaurant : HasField .text "" members "restaurant_name" r.restaurantName)
      (text : HasField .text "" members "review" r.review)
      (rating : HasField Json.int32 0 members "rating" r.rating) :
      IsReview (.object members) r
  | user (u : String) : IsReview (.list [.text u]) ⟨u, "", "", 0⟩
  | restaurant (u r : String) : IsReview (.list [.text u, .text r]) ⟨u, r, "", 0⟩
  | text (u r t : String) : IsReview (.list [.text u, .text r, .text t]) ⟨u, r, t, 0⟩
  | rating (u r t : String) (n : Int32) :
      IsReview (.list [.text u, .text r, .text t, .int32 n]) ⟨u, r, t, n⟩

/-- A review fits the fields of the model in the order in which it has them. -/
theorem fit_review_eq_some {v : Json} {r : Review} :
    Record.fit v = some r ↔
      (Record.shape Review).fit v =
        some (r.userName, r.restaurantName, r.review, r.rating, ()) := by
  refine Option.map_eq_some_iff.trans ⟨?_, fun h => ⟨_, h, rfl⟩⟩
  rintro ⟨⟨u, r, t, n, ⟨⟩⟩, h, rfl⟩
  exact h

theorem fit_review_object {members : List (String × Json)} {r : Review} :
    Record.fit (.object members) = some r ↔ IsReview (.object members) r := by
  have hfields : (Record.shape Review).fit (.object members) =
      some (r.userName, r.restaurantName, r.review, r.rating, ()) ↔
      Once members "user_name" (.text r.userName) ∧
      HasField .text "" members "restaurant_name" r.restaurantName ∧
      HasField .text "" members "review" r.review ∧
      HasField Json.int32 0 members "rating" r.rating ∧
      Fields.nil.fitMembers members = some () :=
    Fields.fitMembers_requiredText_iff.trans <| and_congr_right' <|
    Fields.fitMembers_text_iff.trans <| and_congr_right' <|
    Fields.fitMembers_text_iff.trans <| and_congr_right' Fields.fitMembers_integer_iff
  rw [fit_review_eq_some, hfields]
  constructor
  · rintro ⟨huser, hrestaurant, htext, hrating, -⟩
    exact .object huser hrestaurant htext hrating
  · rintro ⟨huser, hrestaurant, htext, hrating⟩
    exact ⟨huser, hrestaurant, htext, hrating, rfl⟩

theorem fit_review_list {items : List Json} {r : Review} :
    Record.fit (.list items) = some r ↔ IsReview (.list items) r := by
  rw [fit_review_eq_some]
  obtain ⟨user, restaurant, text, rating⟩ := r
  constructor
  · intro h
    -- item by item: behind the last one, the fields that are left are empty
    rcases items with _ | ⟨a, items⟩
    · cases h
    replace ⟨ha, h⟩ := Fields.fitItems_cons_iff.1 h
    obtain rfl := Shape.fit_text_iff.1 ha
    rcases items with _ | ⟨b, items⟩
    · have hempty : some ("", "", (0 : Int32), ()) = some (restaurant, text, rating, ()) := h
      cases hempty
      exact .user user
    replace ⟨hb, h⟩ := Fields.fitItems_cons_iff.1 h
    obtain rfl := Shape.fit_text_iff.1 hb
    rcases items with _ | ⟨c, items⟩
    · have hempty : some ("", (0 : Int32), ()) = some (text, rating, ()) := h
      cases hempty
      exact .restaurant user restaurant
    replace ⟨hc, h⟩ := Fields.fitItems_cons_iff.1 h
    obtain rfl := Shape.fit_text_iff.1 hc
    rcases items with _ | ⟨d, items⟩
    · have hempty : some ((0 : Int32), ()) = some (rating, ()) := h
      cases hempty
      exact .text user restaurant text
    replace ⟨hd, h⟩ := Fields.fitItems_cons_iff.1 h
    obtain rfl := Shape.fit_integer_iff.1 hd
    rcases items with _ | ⟨e, items⟩
    · exact .rating user restaurant text rating
    · cases h
  · rintro (_ | _ | _ | _ | _)
    · rfl
    · rfl
    · rfl
    · exact Fields.fitItems_cons_iff.2 ⟨rfl, Fields.fitItems_cons_iff.2 ⟨rfl,
        Fields.fitItems_cons_iff.2 ⟨rfl, Fields.fitItems_cons_iff.2
          ⟨Shape.fit_integer_iff.2 rfl, rfl⟩⟩⟩⟩

theorem fit_review_iff {v : Json} {r : Review} : Record.fit v = some r ↔ IsReview v r := by
  cases v with
  | object members => exact fit_review_object
  | list items => exact fit_review_list
  | _ => exact ⟨(by rintro ⟨⟩), (by rintro ⟨⟩)⟩

/-- A value is one review at most. -/
theorem isReview_unique (v : Json) (r r' : Review) (h : IsReview v r) (h' : IsReview v r') :
    r = r' :=
  Option.some_inj.1 ((fit_review_iff.2 h).symm.trans (fit_review_iff.2 h'))

/-- The reviews of an object by the names of their users: all its values are reviews, the last one
of each name counts, and they are in the order of the bytes of the names. -/
def ByUser (named : List (String × Json)) (reviews : List Review) : Prop :=
  (∀ m ∈ named, ∃ r, IsReview m.2 r) ∧
  ∃ byUser : List (String × Review),
    (byUser.Pairwise fun a b => utf8 a.1 < utf8 b.1) ∧
    (∀ user r, (user, r) ∈ byUser ↔ ∃ v, IsLast named user v ∧ IsReview v r) ∧
    reviews = byUser.map Prod.snd

/-- Which values list reviews. -/
inductive Lists : Json → List Review → Prop
  | nothing : Lists .null []
  | many {items : List Json} {reviews : List Review} (h : List.Forall₂ IsReview items reviews) :
      Lists (.list items) reviews
  | single {v : Json} {r : Review} (h : IsReview v r)
      (notMany : ∀ items reviews, v = .list items → ¬ List.Forall₂ IsReview items reviews) :
      Lists v [r]
  | search {members named : List (String × Json)} {reviews : List Review}
      (notSingle : ∀ r, ¬ IsReview (.object members) r)
      (only : Once members "reviews_map" (.object named)) (h : ByUser named reviews) :
      Lists (.object members) reviews
  | empty : Lists (.object []) []

namespace ReviewList

theorem mapM_eq_some_iff {α β : Type} {f : α → Option β} {R : α → β → Prop}
    (hf : ∀ a b, f a = some b ↔ R a b) :
    ∀ {items : List α} {results : List β},
      items.mapM f = some results ↔ List.Forall₂ R items results
  | [], results => by simp [eq_comm]
  | a :: items, results => by
    simp only [List.mapM_cons, Option.bind_eq_bind, Option.bind_eq_some_iff, hf,
      mapM_eq_some_iff hf, List.forall₂_cons_left_iff]
    constructor
    · rintro ⟨b, hb, rest, hrest, h⟩
      cases h
      exact ⟨b, rest, hb, hrest, rfl⟩
    · rintro ⟨b, rest, hb, hrest, rfl⟩
      exact ⟨b, hb, rest, hrest, rfl⟩

theorem ofList_iff {items : List Json} {reviews : List Review} :
    ofList (.list items) = some reviews ↔ List.Forall₂ IsReview items reviews :=
  mapM_eq_some_iff fun _ _ => fit_review_iff

theorem exists_forall₂_iff {α β : Type} {R : α → β → Prop} :
    ∀ {items : List α}, (∃ results, List.Forall₂ R items results) ↔ ∀ a ∈ items, ∃ b, R a b
  | [] => by simp
  | a :: items => by
    simp only [List.forall₂_cons_left_iff, List.forall_mem_cons,
      ← exists_forall₂_iff]
    constructor
    · rintro ⟨_, b, results, hb, hresults, -⟩
      exact ⟨⟨b, hb⟩, results, hresults⟩
    · rintro ⟨⟨b, hb⟩, results, hresults⟩
      exact ⟨_, b, results, hb, hresults, rfl⟩

theorem ofNamed_iff {named : List (String × Json)} {reviews : List Review} :
    ofNamed named = some reviews ↔ ByUser named reviews := by
  have hmapM : ∀ results, named.mapM (fun m => (Record.fit m.2).map fun r => (m.1, r)) =
      some results ↔ List.Forall₂ (fun m n => m.1 = n.1 ∧ IsReview m.2 n.2) named results :=
    fun results => mapM_eq_some_iff fun m n => by
      simp only [Option.map_eq_some_iff, fit_review_iff, Prod.ext_iff]
      grind
  have hall : (∃ results : List (String × Review),
      List.Forall₂ (fun m n => m.1 = n.1 ∧ IsReview m.2 n.2) named results) ↔
      ∀ m ∈ named, ∃ r, IsReview m.2 r := by
    rw [exists_forall₂_iff]
    exact forall₂_congr fun m _ => ⟨fun ⟨n, hn⟩ => ⟨n.2, hn.2⟩, fun ⟨r, hr⟩ => ⟨(m.1, r), rfl, hr⟩⟩
  rw [ofNamed, Option.map_eq_some_iff]
  simp only [hmapM]
  constructor
  · rintro ⟨results, h, rfl⟩
    refine ⟨hall.1 ⟨results, h⟩, sortMembers results, pairwise_sortMembers results,
      fun user r => ?_, rfl⟩
    rw [mem_sortMembers, isLast_of_forall₂ isReview_unique h]
  · rintro ⟨hreviews, byUser, hsorted, hmem, rfl⟩
    obtain ⟨results, h⟩ := hall.2 hreviews
    refine ⟨results, h, congrArg _ (eq_of_pairwise_name (pairwise_sortMembers results) hsorted
      fun user r => ?_)⟩
    rw [mem_sortMembers, isLast_of_forall₂ isReview_unique h, hmem]

/-- No review is lost: only where nothing is named there is nothing to list. -/
theorem byUser_nil_iff {named : List (String × Json)} : ByUser named [] ↔ named = [] := by
  constructor
  · rintro ⟨hreviews, byUser, -, hmem, hnil⟩
    rcases List.eq_nil_or_concat named with rfl | ⟨before, m, rfl⟩
    · rfl
    · obtain rfl : byUser = [] := List.map_eq_nil_iff.1 hnil.symm
      obtain ⟨r, hr⟩ := hreviews m (by simp)
      have hlast : IsLast (before ++ [m]) m.1 m.2 := (isLast_concat _ _ _ _).2 (.inl ⟨rfl, rfl⟩)
      exact absurd ((hmem m.1 r).2 ⟨m.2, by simpa using hlast, hr⟩) (List.not_mem_nil)
  · rintro rfl
    exact ⟨by simp, [], .nil, by simp [not_isLast_nil], rfl⟩

theorem ofSingle_iff {v : Json} {reviews : List Review} :
    ofSingle v = some reviews ↔ ∃ r, IsReview v r ∧ [r] = reviews := by
  rw [ofSingle, Option.map_eq_some_iff]
  simp only [fit_review_iff]

theorem ofSearch_iff {members : List (String × Json)} {reviews : List Review} :
    ofSearch (.object members) = some reviews ↔
      ∃ named, Once members "reviews_map" (.object named) ∧ ByUser named reviews := by
  rw [ofSearch]
  split
  · rename_i name named hone
    obtain ⟨rfl, honce⟩ := filter_name_eq_singleton.1 hone
    rw [ofNamed_iff]
    refine ⟨fun h => ⟨named, honce, h⟩, ?_⟩
    rintro ⟨named', honce', h⟩
    cases honce.symm.trans honce'
    exact h
  · rename_i hnot
    simp only [reduceCtorEq, false_iff]
    rintro ⟨named, honce, -⟩
    exact hnot _ _ honce

theorem ofEmpty_iff {members : List (String × Json)} {reviews : List Review} :
    ofEmpty (.object members) = some reviews ↔ members = [] ∧ reviews = [] := by
  cases members <;> simp [ofEmpty, eq_comm]

theorem ofJson_list_iff {items : List Json} {reviews : List Review} :
    ofJson (.list items) = some ⟨reviews⟩ ↔
      List.Forall₂ IsReview items reviews ∨
        (∀ all, ¬ List.Forall₂ IsReview items all) ∧
          ∃ r, IsReview (.list items) r ∧ [r] = reviews := by
  simp only [ofJson, ofNothing, ofSearch, ofEmpty, Option.none_or, Option.or_none,
    Option.map_eq_some_iff, mk.injEq, exists_eq_right, Option.or_eq_some_iff,
    Option.eq_none_iff_forall_ne_some, ne_eq, ofList_iff, ofSingle_iff]

theorem ofJson_object_iff {members : List (String × Json)} {reviews : List Review} :
    ofJson (.object members) = some ⟨reviews⟩ ↔
      (∃ r, IsReview (.object members) r ∧ [r] = reviews) ∨
        (∀ r, ¬ IsReview (.object members) r) ∧
          ((∃ named, Once members "reviews_map" (.object named) ∧ ByUser named reviews) ∨
            members = [] ∧ reviews = []) := by
  have hsingle : (∀ all, ¬ ∃ r, IsReview (.object members) r ∧ [r] = all) ↔
      ∀ r, ¬ IsReview (.object members) r :=
    ⟨fun h r hr => h [r] ⟨r, hr, rfl⟩, by rintro h _ ⟨r, hr, -⟩; exact h r hr⟩
  simp only [ofJson, ofNothing, ofList, Option.none_or, Option.map_eq_some_iff, mk.injEq,
    exists_eq_right, Option.or_eq_some_iff, Option.eq_none_iff_forall_ne_some, ne_eq, ofSingle_iff,
    ofSearch_iff, ofEmpty_iff, hsingle]
  refine or_congr_right (and_congr_right' (or_congr_right ⟨And.right, ?_⟩))
  rintro ⟨rfl, rfl⟩
  have hnone : ∀ named, ¬ Once [] "reviews_map" (.object named) := nofun
  simp [hnone]

/-- The forms are tried one after the other, but each value has one form. -/
theorem ofJson_iff {v : Json} {list : ReviewList} :
    ofJson v = some list ↔ Lists v list.reviews := by
  obtain ⟨reviews⟩ := list
  cases v with
  | null =>
    constructor
    · rintro ⟨⟩
      exact .nothing
    · rintro (_ | _ | ⟨⟨⟩, -⟩)
      rfl
  | list items =>
    rw [ofJson_list_iff]
    constructor
    · rintro (h | ⟨hnot, r, h, rfl⟩)
      · exact .many h
      · exact .single h (by rintro _ all ⟨⟩; exact hnot all)
    · rintro (_ | h | ⟨h, notMany⟩)
      · exact .inl h
      · exact .inr ⟨fun all => notMany items all rfl, _, h, rfl⟩
  | object members =>
    rw [ofJson_object_iff]
    constructor
    · rintro (⟨r, h, rfl⟩ | ⟨hnot, ⟨named, honce, h⟩ | ⟨rfl, rfl⟩⟩)
      · exact .single h nofun
      · exact .search hnot honce h
      · exact .empty
    · rintro (_ | _ | ⟨h, -⟩ | ⟨hnot, honce, h⟩ | _)
      · exact .inl ⟨_, h, rfl⟩
      · exact .inr ⟨hnot, .inl ⟨_, honce, h⟩⟩
      · exact .inr ⟨nofun, .inr ⟨rfl, rfl⟩⟩
  | _ => exact ⟨nofun, by rintro (_ | _ | ⟨⟨⟩, -⟩)⟩

/-- What is read from a text is what is read from its value. -/
theorem read_eq_ok_iff {text : String} {list : ReviewList} :
    read text = .ok list ↔ ∃ v, Json.read text = .ok v ∧ ofJson v = some list := by
  unfold read
  simp only [Json.read, Json.readAll_eq_ok_iff]
  split
  · rename_i h
    simp [h]
  · rename_i v rest h
    simp only [h, Except.ok.injEq, Prod.mk.injEq]
    split
    · rename_i list' hlist
      rw [Json.finish_eq_ok_iff]
      grind
    · rename_i hnone
      grind

/-- A text is accepted if and only if its value lists reviews, and those are given; a value that
lists none is refused. An object with members is no empty list, but for a search that found nothing.
-/
theorem read_exact (text : String) :
    (∀ list, read text = .ok list ↔ ∃ v, Json.read text = .ok v ∧ Lists v list.reviews) ∧
    (∀ v, Json.read text = .ok v → (∀ reviews, ¬ Lists v reviews) →
      read text = .error ⟨.noVariant "ReviewListWire", none⟩) ∧
    (∀ members, Json.read text = .ok (.object members) → members ≠ [] →
      (read text = .ok ⟨[]⟩ ↔
        (∀ r, ¬ IsReview (.object members) r) ∧ Once members "reviews_map" (.object []))) := by
  refine ⟨fun list => by simp only [read_eq_ok_iff, ofJson_iff], fun v hv hnone => ?_,
    fun members hmembers hne => ?_⟩
  · obtain ⟨rest, hrest, -⟩ := Json.readAll_eq_ok_iff.1 hv
    have hform : ofJson v = none :=
      Option.eq_none_iff_forall_ne_some.2 fun list hlist => hnone _ (ofJson_iff.1 hlist)
    simp only [read, hrest, hform]
  · have hvalue : ∀ v, Json.read text = .ok v ↔ v = .object members := fun v => by
      rw [hmembers, Except.ok.injEq, eq_comm]
    simp only [read_eq_ok_iff, hvalue, exists_eq_left, ofJson_object_iff, hne, false_and, or_false,
      reduceCtorEq, and_false, exists_false, false_or, byUser_nil_iff, exists_eq_right]

end ReviewList

end Bistro
