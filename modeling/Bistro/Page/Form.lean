import Bistro.Model.Reservation
import Bistro.Model.Restaurant
import Bistro.Model.Review
import Bistro.Page.Trouble
import Bistro.Text.Blank

/-!
# Forms

The forms of the page and the requests that are made from what was typed into them. Every value is
taken as it was typed; only where a number is wanted may blanks stand around it.
-/

namespace Bistro

/-- The controls of the forms. -/
inductive Control where
  | userName
  | restaurantName
  | year
  | month
  | day
  | review
  | rating
  | location
  | style
  | capacity
  deriving DecidableEq, Repr

def Control.name : Control → String
  | .userName => "user-name"
  | .restaurantName => "restaurant-name"
  | .year => "year"
  | .month => "month"
  | .day => "day"
  | .review => "review"
  | .rating => "rating"
  | .location => "location"
  | .style => "style"
  | .capacity => "capacity"

/-- The controls of a posted form with their values, in the order of the post. -/
abbrev Form := List (String × String)

namespace Form

/-- The value of a control: the last one posted, or nothing if the control is missing. -/
def value (form : Form) (control : Control) : String :=
  match form.reverse.find? fun m => m.1 = control.name with
  | some m => m.2
  | none => ""

/-- The number in a control. -/
def number (form : Form) (control : Control) : Except Trouble Int32 :=
  let text := form.value control
  match readInt32 (trimChars text.toList) with
  | .ok z => .ok z
  | .error _ =>
    .error (.invalidInput (control.name ++ " must be a number, got `" ++ text ++ "`"))

def reservation (form : Form) : ReservationRequest where
  userName := form.value .userName
  restaurantName := form.value .restaurantName
  year := form.value .year
  month := form.value .month
  day := form.value .day

def review (form : Form) : Except Trouble ReviewRequest :=
  (form.number .rating).map fun rating =>
    { userName := form.value .userName
      restaurantName := form.value .restaurantName
      review := form.value .review
      rating }

def restaurant (form : Form) : Except Trouble RestaurantRequest :=
  (form.number .capacity).map fun capacity =>
    { restaurantName := form.value .restaurantName
      location := form.value .location
      style := form.value .style
      capacity }

end Form

end Bistro
