import Bistro.Text.Decimal

/-!
# Troubles

What can keep a region of the page from being filled. Each trouble is confined to the region of the
operation that met it.
-/

namespace Bistro

inductive Trouble where
  /-- The backend was not reached, or its answer did not arrive in full. -/
  | network (reason : String)
  /-- The body of the answer does not have the expected form. -/
  | parse (endpoint reason : String)
  /-- The backend answered with a status that is no success, and a text of its own. -/
  | rejected (endpoint : String) (status : Nat) (reason : String)
  | invalidInput (reason : String)
  deriving DecidableEq, Repr

def Trouble.message : Trouble → String
  | .network reason => "could not reach the restaurant backend: " ++ reason
  | .parse endpoint reason => "unexpected response from " ++ endpoint ++ ": " ++ reason
  | .rejected endpoint status reason =>
    endpoint ++ " answered " ++ Decimal.write status ++ ": " ++ reason
  | .invalidInput reason => "invalid input: " ++ reason

end Bistro
