import Bistro.Page.Fragment

/-!
# The document

The regions of the page. A region is empty until something is written to it, and counts what is
written.
-/

namespace Bistro

inductive RegionId where
  | details
  | reviews
  | reservationMessage
  | reservations
  | popular
  deriving DecidableEq, Repr

namespace RegionId

/-- The id of the region's element on the page. -/
def name : RegionId → String
  | .details => "restaurant-details"
  | .reviews => "reviews"
  | .reservationMessage => "reservation-message"
  | .reservations => "reservations"
  | .popular => "popular"

def all : List RegionId :=
  [.details, .reviews, .reservationMessage, .reservations, .popular]

def ofName? (s : String) : Option RegionId :=
  all.find? fun r => r.name = s

end RegionId

/-- What a region shows: nothing yet, a fragment, or why there is none. -/
inductive Content where
  | empty
  | rendered (f : Fragment)
  | failed (message : String)
  deriving Repr

structure Region where
  content : Content
  writes : Nat
  deriving Repr

def Region.fresh : Region :=
  ⟨.empty, 0⟩

def Region.write (r : Region) (c : Content) : Region :=
  ⟨c, r.writes + 1⟩

structure Document where
  details : Region
  reviews : Region
  reservationMessage : Region
  reservations : Region
  popular : Region
  deriving Repr

namespace Document

/-- The document before anything is written. -/
def fresh : Document :=
  ⟨.fresh, .fresh, .fresh, .fresh, .fresh⟩

def region (d : Document) : RegionId → Region
  | .details => d.details
  | .reviews => d.reviews
  | .reservationMessage => d.reservationMessage
  | .reservations => d.reservations
  | .popular => d.popular

def write (d : Document) (id : RegionId) (c : Content) : Document :=
  match id with
  | .details => { d with details := d.details.write c }
  | .reviews => { d with reviews := d.reviews.write c }
  | .reservationMessage => { d with reservationMessage := d.reservationMessage.write c }
  | .reservations => { d with reservations := d.reservations.write c }
  | .popular => { d with popular := d.popular.write c }

@[simp] theorem region_fresh (id : RegionId) : fresh.region id = .fresh := by
  cases id <;> rfl

/-- A write changes the region it is for and no other. -/
theorem region_write (d : Document) (id id' : RegionId) (c : Content) :
    (d.write id c).region id' = if id = id' then (d.region id').write c else d.region id' := by
  cases id <;> cases id' <;> rfl

end Document

end Bistro
