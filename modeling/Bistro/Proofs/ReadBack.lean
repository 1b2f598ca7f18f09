import Bistro.Proofs.PageMarkup
import Bistro.Proofs.Spelled

/-!
# Lists that are read back

What a fragment shows of a list is read off its markup again (`Shown.read`): the tags say where an
item and its parts begin and end, and no text between them can look like a tag. So reviews, popular
restaurants and details come back one by one and in order, whatever is written in them
(`Shown.reads_what_is_shown`).
-/

namespace Bistro

/-- The tags of a markup, each with the text behind it, whose entities are read back. -/
def pieces (html : String) : List (String × String) :=
  (cut html.toList).2.map fun p => (String.ofList p.1, unescape (String.ofList p.2))

def Mark.piece (m : Mark) : String × String :=
  (String.ofList m.tag.chars, unescape m.text)

theorem Fragment.pieces_html {f : Fragment} (h : f.isComposed) :
    pieces f.html = f.marks.map Mark.piece := by
  rw [pieces, toList_html h, Mark.cut_render _ f.clean_marks, List.map_map]
  refine List.map_congr_left fun m _ => ?_
  rw [Function.comp_apply, String.ofList_toList, Mark.piece]

theorem Mark.piece_plain (name text : String) :
    (plain name text).piece = ("<" ++ name ++ ">", unescape text) := by
  have htag : String.ofList ('<' :: (name.toList ++ ['>'])) = "<" ++ name ++ ">" :=
    String.toList_inj.1 (by simp)
  rw [piece, chars_plain, text_plain, htag]

/-- What a fragment shows of a list: the reviews with their users and ratings, the names of popular
restaurants, or the details of one. -/
inductive Shown where
  | reviews (items : List (String × Int32 × String))
  | popular (names : List String)
  | details (name location style : String) (capacity : Int32) (extra : List (String × String))
  deriving DecidableEq, Repr

namespace Shown

/-- Reads a rating and the review behind it. -/
def readRated (s : String) : Option (Int32 × String) :=
  match s.toList with
  | ' ' :: '(' :: r =>
    match r.dropWhile (· != '/') with
    | '/' :: '5' :: ')' :: ':' :: ' ' :: review =>
      (readInt32 (r.takeWhile (· != '/'))).toOption.map fun n => (n, String.ofList review)
    | _ => none
  | _ => none

def readReviews : List (String × String) → Option (List (String × Int32 × String))
  | [("</ul>", "")] => some []
  | ("<li>", "") :: ("<strong>", user) :: ("</strong>", rated) :: ("</li>", "") :: rest => do
    let review ← readRated rated
    let reviews ← readReviews rest
    return (user, review) :: reviews
  | _ => none

def readNames : List (String × String) → Option (List String)
  | [("</ol>", "")] => some []
  | ("<li>", name) :: ("</li>", "") :: rest => (readNames rest).map (name :: ·)
  | _ => none

def readTerms : List (String × String) → Option (List (String × String))
  | [("</dl>", "")] => some []
  | ("<dt>", name) :: ("</dt>", "") :: ("<dd>", value) :: ("</dd>", "") :: rest =>
    (readTerms rest).map ((name, value) :: ·)
  | _ => none

/-- Details from their terms: the first three are always there. -/
def ofTerms (name : String) : List (String × String) → Option Shown
  | ("Location", location) :: ("Style", style) :: ("Capacity", capacity) :: extra =>
    (readInt32 capacity.toList).toOption.map fun n => .details name location style n extra
  | _ => none

/-- Reads what a markup shows. -/
def read (html : String) : Option Shown :=
  match pieces html with
  | [("<p>", "No reviews yet."), ("</p>", "")] => some (.reviews [])
  | ("<ul>", "") :: rest => (readReviews rest).map .reviews
  | ("<ol>", "") :: rest => (readNames rest).map .popular
  | ("<h2>", name) :: ("</h2>", "") :: ("<dl>", "") :: rest => (readTerms rest).bind (ofTerms name)
  | _ => none

end Shown

namespace Fragment

theorem toList_integer (n : Int32) : (integer n).toList = Decimal.chars n.toInt := by
  rw [integer, Decimal.write, String.toList_ofList]

/-- Only digits and signs stand in an integer. -/
theorem notMem_integer {c : Char} (hdigit : Decimal.isDigit c = false) (hplus : c ≠ '+')
    (hminus : c ≠ '-') (n : Int32) : c ∉ (integer n).toList := by
  intro hc
  rw [toList_integer] at hc
  have hne : ∀ c' ∈ Decimal.chars n.toInt, c ≠ c' :=
    (Decimal.spells_chars n.toInt).forall_mem (by rintro c' hc' rfl; simp [hdigit] at hc')
      hplus hminus
  exact hne c hc rfl

theorem unescape_integer (n : Int32) : unescape (integer n) = integer n := by
  have h := unescape_append_escape (notMem_integer (by decide) (by decide) (by decide) n) ""
  rwa [show escape "" = "" from rfl, String.append_empty] at h

end Fragment

namespace Shown

open Fragment

theorem readRated_rated (n : Int32) (review : String) :
    readRated (" (" ++ integer n ++ "/5): " ++ review) = some (n, review) := by
  have hslash : (Decimal.chars n.toInt).all (· != '/') := by
    rw [← toList_integer, List.all_eq_true]
    exact fun c hc => bne_iff_ne.2 fun h =>
      notMem_integer (by decide) (by decide) (by decide) n (h ▸ hc)
  have htext : (" (" ++ integer n ++ "/5): " ++ review).toList =
      ' ' :: '(' :: (Decimal.chars n.toInt ++
        '/' :: '5' :: ')' :: ':' :: ' ' :: review.toList) := by
    simp [toList_integer]
  simp only [readRated, htext]
  rw [Tag.takeWhile_append_cons hslash rfl, Tag.dropWhile_append_cons hslash rfl, readInt32_chars]
  simp only [Except.toOption, Option.map_some, String.ofList_toList]

theorem pieces_reviewMarks (r : Review) :
    (reviewMarks r).map Mark.piece =
      [("<li>", ""), ("<strong>", r.userName),
        ("</strong>", " (" ++ integer r.rating ++ "/5): " ++ r.review), ("</li>", "")] := by
  have hamp : '&' ∉ (" (" ++ integer r.rating ++ "/5): ").toList := by
    have hinteger := notMem_integer (c := '&') (by decide) (by decide) (by decide) r.rating
    simp [hinteger]
  have hrated : unescape (" (" ++ integer r.rating ++ "/5): " ++ escape r.review) =
      " (" ++ integer r.rating ++ "/5): " ++ r.review := unescape_append_escape hamp r.review
  simp only [reviewMarks, List.map_cons, List.map_nil, Mark.piece_plain, unescape_escape, hrated]
  rfl

theorem pieces_popularMarks (name : String) :
    [Mark.plain "li" (escape name), .plain "/li" ""].map Mark.piece =
      [("<li>", name), ("</li>", "")] := by
  simp only [List.map_cons, List.map_nil, Mark.piece_plain, unescape_escape]
  rfl

theorem readReviews_pieces : ∀ list : List Review,
    readReviews (list.flatMap (fun r => (reviewMarks r).map Mark.piece) ++ [("</ul>", "")]) =
      some (list.map fun r => (r.userName, r.rating, r.review))
  | [] => rfl
  | r :: list => by
    have ih := readReviews_pieces list
    rw [List.flatMap_cons, List.append_assoc, pieces_reviewMarks]
    simp [readReviews, readRated_rated, ih]

theorem readNames_pieces : ∀ names : List String,
    readNames (names.flatMap (fun name => [("<li>", name), ("</li>", "")]) ++ [("</ol>", "")]) =
      some names
  | [] => rfl
  | name :: names => by
    have ih := readNames_pieces names
    rw [List.flatMap_cons, List.append_assoc]
    simp [readNames, ih]

/-- The tags of a term, with what they enclose. -/
def termPieces (t : String × String) : List (String × String) :=
  [("<dt>", t.1), ("</dt>", ""), ("<dd>", t.2), ("</dd>", "")]

theorem pieces_termMarks (name value : String) :
    (termMarks name value).map Mark.piece = termPieces (unescape name, unescape value) := by
  simp only [termMarks, List.map_cons, List.map_nil, Mark.piece_plain]
  rfl

theorem readTerms_pieces : ∀ terms : List (String × String),
    readTerms (terms.flatMap termPieces ++ [("</dl>", "")]) = some terms
  | [] => rfl
  | t :: terms => by
    have ih := readTerms_pieces terms
    rw [List.flatMap_cons, List.append_assoc, termPieces]
    simp [readTerms, ih]

theorem read_reviews (list : ReviewList) :
    read (Fragment.reviews list).html =
      some (.reviews (list.reviews.map fun r => (r.userName, r.rating, r.review))) := by
  rcases list with ⟨_ | ⟨r, list⟩⟩
  · rfl
  · have hpieces : pieces (Fragment.reviews ⟨r :: list⟩).html =
        ("<ul>", "") :: ((r :: list).flatMap (fun r => (reviewMarks r).map Mark.piece) ++
          [("</ul>", "")]) := by
      rw [pieces_html rfl, marks, reviewsMarks, if_neg (by simp [ReviewList.isEmpty]),
        List.map_append, List.map_append, List.map_flatMap]
      rfl
    simp only [read, hpieces, readReviews_pieces, Option.map_some]

theorem html_reviews_eq_iff (list : ReviewList) :
    (Fragment.reviews list).html = "<p>No reviews yet.</p>" ↔ list.reviews = [] := by
  constructor
  · intro h
    have hread := read_reviews list
    rw [h, show read "<p>No reviews yet.</p>" = some (.reviews []) from rfl] at hread
    simpa using hread.symm
  · intro h
    rcases list with ⟨_⟩
    cases h
    rfl

theorem read_popular (p : PopularRestaurants) :
    read (Fragment.popular p).html = some (.popular p.topRestaurants) := by
  have hpieces : pieces (Fragment.popular p).html =
      ("<ol>", "") :: (p.topRestaurants.flatMap (fun name => [("<li>", name), ("</li>", "")]) ++
        [("</ol>", "")]) := by
    rw [pieces_html rfl, marks, popularMarks, List.map_append, List.map_append, List.map_flatMap]
    simp only [pieces_popularMarks]
    rfl
  simp only [read, hpieces, readNames_pieces, Option.map_some]

theorem read_details (d : RestaurantDetails) :
    read (Fragment.details d).html =
      some (.details d.restaurantName d.location d.style d.capacity
        (d.extra.map fun m => (m.1, shown m.2))) := by
  have hpieces : pieces (Fragment.details d).html =
      ("<h2>", d.restaurantName) :: ("</h2>", "") :: ("<dl>", "") ::
        ((("Location", d.location) :: ("Style", d.style) :: ("Capacity", integer d.capacity) ::
          d.extra.map fun m => (m.1, shown m.2)).flatMap termPieces ++ [("</dl>", "")]) := by
    rw [pieces_html rfl, marks, detailsMarks]
    simp only [List.map_append, List.map_cons, List.map_nil, List.map_flatMap, Mark.piece_plain,
      pieces_termMarks, unescape_escape, unescape_integer, List.flatMap_cons, List.flatMap_map,
      List.append_assoc]
    rfl
  simp only [read, hpieces, readTerms_pieces, Option.bind_some]
  simp only [ofTerms, toList_integer, readInt32_chars]
  rfl

theorem eq_of_read {html html' : String} {a b : Shown} (h : html = html')
    (ha : read html = some a) (hb : read html' = some b) : a = b := by
  rw [h, hb] at ha
  exact (Option.some.inj ha).symm

/-- What a fragment shows of a list is read off its markup, item by item and in order, whatever
stands in the texts: reviews, names and details that give one markup are the same in all that is
shown. That there are no reviews is shown for no other list. -/
theorem reads_what_is_shown :
    (∀ list : ReviewList,
      read (Fragment.reviews list).html =
          some (.reviews (list.reviews.map fun r => (r.userName, r.rating, r.review))) ∧
        ((Fragment.reviews list).html = "<p>No reviews yet.</p>" ↔ list.reviews = [])) ∧
    (∀ p : PopularRestaurants,
      read (Fragment.popular p).html = some (.popular p.topRestaurants)) ∧
    (∀ d : RestaurantDetails,
      read (Fragment.details d).html =
        some (.details d.restaurantName d.location d.style d.capacity
          (d.extra.map fun m => (m.1, shown m.2)))) ∧
    (∀ a b : ReviewList, (Fragment.reviews a).html = (Fragment.reviews b).html →
      (a.reviews.map fun r => (r.userName, r.rating, r.review)) =
        b.reviews.map fun r => (r.userName, r.rating, r.review)) ∧
    (∀ a b : PopularRestaurants, (Fragment.popular a).html = (Fragment.popular b).html →
      a.topRestaurants = b.topRestaurants) ∧
    (∀ a b : RestaurantDetails, (Fragment.details a).html = (Fragment.details b).html →
      a.restaurantName = b.restaurantName ∧ a.location = b.location ∧ a.style = b.style ∧
        a.capacity = b.capacity ∧
        (a.extra.map fun m => (m.1, shown m.2)) = b.extra.map fun m => (m.1, shown m.2)) := by
  refine ⟨fun list => ⟨read_reviews list, html_reviews_eq_iff list⟩, read_popular,
    read_details, fun a b h => ?_, fun a b h => ?_, fun a b h => ?_⟩
  · simpa using eq_of_read h (read_reviews a) (read_reviews b)
  · simpa using eq_of_read h (read_popular a) (read_popular b)
  · simpa using eq_of_read h (read_details a) (read_details b)

/-- One review cannot look like two. -/
example :
    read (Fragment.reviews ⟨[⟨"ann", "", "bad</li><li><strong>bob</strong> (5/5): ", 1⟩]⟩).html =
      some (.reviews [("ann", 1, "bad</li><li><strong>bob</strong> (5/5): ")]) := by
  decide +kernel

end Shown

end Bistro
