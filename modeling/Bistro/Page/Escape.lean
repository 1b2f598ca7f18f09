/-!
# Text in markup

The five characters that mean something in markup are written as entities, so that a text can stand
between tags and in a quoted attribute.
-/

namespace Bistro

/-- A character within markup. -/
def escapeChar (c : Char) : List Char :=
  if c = '&' then ['&', 'a', 'm', 'p', ';']
  else if c = '<' then ['&', 'l', 't', ';']
  else if c = '>' then ['&', 'g', 't', ';']
  else if c = '"' then ['&', 'q', 'u', 'o', 't', ';']
  else if c = '\'' then ['&', '#', '3', '9', ';']
  else [c]

def escapeChars (s : List Char) : List Char :=
  s.flatMap escapeChar

/-- A text within markup. -/
def escape (s : String) : String :=
  String.ofList (escapeChars s.toList)

end Bistro
