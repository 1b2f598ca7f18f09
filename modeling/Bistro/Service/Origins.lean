import Bistro.Text.Blank
import Bistro.Text.Utf8
import Bistro.Web.Message

/-!
# Origins

Which other sites may read the pages: the origins that the settings list, separated by commas, with
blanks around them. What cannot be the value of a header is passed over, with a warning each. A list
that holds the wildcard is refused as a whole.
-/

namespace Bistro

/-- The pieces between commas, as they are written. -/
def originPieces (text : String) : List String :=
  (text.toList.splitOn ',').map String.ofList

/-- Whether a text can be the value of a header: no control characters but the tab. -/
def isHeaderValue (s : String) : Bool :=
  (utf8 s).all fun b => (0x20 ≤ b.toNat && b.toNat != 0x7F) || b.toNat == 0x09

/-- The origins that pages are granted to. -/
abbrev Origins := List String

/-- The origins that a text lists. -/
def listedOrigins (text : String) : Origins :=
  ((originPieces text).map trim).filter isHeaderValue

/-- The pieces that are passed over, as they are written. -/
def ignoredOrigins (text : String) : List String :=
  (originPieces text).filter fun piece => !isHeaderValue (trim piece)

namespace Origins

/-- The headers that tell the reader's browser whether the response is for it. A response differs by
the three headers of the request that it names. -/
def headers (origins : Origins) (request : Web.Request) : List (String × String) :=
  (match request.header? "origin" with
    | some origin =>
      if origins.contains origin then [("access-control-allow-origin", origin)] else []
    | none => []) ++
  [("vary", "origin, access-control-request-method, access-control-request-headers")]

/-- The answer to a browser that asks what it may do. -/
def preflight (origins : Origins) (request : Web.Request) : Web.Response :=
  ⟨200, origins.headers request ++
    [("access-control-allow-methods", "GET,POST,OPTIONS"),
      ("access-control-allow-headers", "authorization,content-type")], ""⟩

end Origins

end Bistro
