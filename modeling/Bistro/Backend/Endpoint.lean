import Bistro.Text.Blank

/-!
# Endpoints

The paths that the backend serves, and their addresses: base and path are joined by exactly one
slash, however many of them the base ends and the path begins with.
-/

namespace Bistro

inductive Endpoint where
  | getDetail
  | postDetail
  | getReview
  | postReview
  | searchReviews
  | getReservation
  | makeReservation
  | mostPopular
  deriving DecidableEq, Repr

def Endpoint.path : Endpoint → String
  | .getDetail => "/get-detail"
  | .postDetail => "/post-detail"
  | .getReview => "/get-review"
  | .postReview => "/post-review"
  | .searchReviews => "/search-reviews"
  | .getReservation => "/get-reservation"
  | .makeReservation => "/make-reservation"
  | .mostPopular => "/most-popular"

/-- Base and path joined by one slash. -/
def endpointUrl (base path : String) : String :=
  String.ofList (dropEndWhile (· == '/') base.toList ++ '/' :: path.toList.dropWhile (· == '/'))

end Bistro
