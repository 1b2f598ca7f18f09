import Bistro.Text.Blank

/-!
# Which restaurant a page shows
-/

namespace Bistro

/-- A name without the blanks around it, unless nothing else is left. -/
def properName (name : String) : Option String :=
  if trim name = "" then none else some (trim name)

/-- The restaurant that was asked for, else the one that is shown by default. -/
def selectRestaurant (default : String) (requested : Option String) : Option String :=
  (requested.bind properName).or (properName default)

end Bistro
