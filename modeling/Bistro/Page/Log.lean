import Bistro.Page.Operation

/-!
# The log

How loud an event is, and its words.
-/

namespace Bistro

inductive Level where
  | debug
  | info
  | warn
  deriving DecidableEq, Repr

def Level.name : Level → String
  | .debug => "DEBUG"
  | .info => "INFO"
  | .warn => "WARN"

/-- An entry of the log: a sentence, or a call with its parameters and how it ended. -/
inductive Entry where
  | message (level : Level) (text : String)
  | call (level : Level) (handler input error : String)
  deriving DecidableEq, Repr

def Event.entry : Event → Entry
  | .loading restaurant => .message .debug ("Loading page for restaurant: " ++ restaurant)
  | .called endpoint input none => .call .info endpoint input "<nil>"
  | .called endpoint input (some t) => .call .warn endpoint input t.message
  | .unfilled region text =>
    .message .warn ("Failed to fill region " ++ region.name ++ " due to: " ++ text)

end Bistro
