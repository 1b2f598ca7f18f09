import Bistro.Url.DomainTable
import Bistro.Url.Label
import Bistro.Url.Percent
import Bistro.Url.Punycode

/-!
# Domain names

A domain name is read in any form and written in one: in small letters, with its characters
composed, in labels of ASCII characters. A label that is given in its ASCII form has to be the form
of a label that could have been given itself.
-/

namespace Bistro

namespace Domain

/-- The ASCII characters that no name has. -/
def isForbidden (c : Char) : Bool :=
  Percent.isControl c ||
    [' ', '#', '/', ':', '<', '>', '?', '@', '[', '\\', ']', '^', '|', '%'].contains c

/-- What a character stands for that is not composed of others. -/
def foldSimple (c : Char) : List Char :=
  match foldingTable.find? c with
  | some entry => entry.charsAt c
  | none => [c]

/-- What a character stands for. -/
def fold (c : Char) : List Char :=
  (Composition.parts c).flatMap foldSimple

/-- The name in small letters and composed characters, unless it has a character that no name has.
-/
def normal? (name : List Char) : Option (List Char) :=
  if name.any disallowedTable.contains then none
  else
    let folded := composed (name.flatMap fold)
    if folded.any isForbidden then none else some folded

def isAscii (c : Char) : Bool :=
  c.toNat < 0x80

/-- The longest label beyond ASCII. -/
def maxLabel : Nat := 1000

/-- The longest ASCII form of a label that is read. -/
def maxEncoded : Nat := 2000

/-- A label as it is read, and its ASCII form. -/
structure ReadLabel where
  label : List Char
  ascii : List Char
  deriving DecidableEq, Repr

/-- What marks the ASCII form of a label. -/
def isEncoded (label : List Char) : Bool :=
  label.take 4 == ['x', 'n', '-', '-']

/-- The label of which the form behind the mark is given. It is in the normal form already, and not
in ASCII characters alone. -/
def decode (form : List Char) : Option (List Char) :=
  if form.getLast?.all (· == '-') || maxEncoded < form.length then none
  else (Punycode.decode form).filter fun label => normal? label == some label

/-- Reads a label in normal form. -/
def readLabel (label : List Char) : Option ReadLabel :=
  let read := if isEncoded label then
      if label.all isAscii then (decode (label.drop 4)).map fun decoded => ⟨decoded, label⟩
      else none
    else if label.all isAscii then some ⟨label, label⟩
    else some ⟨label, ['x', 'n', '-', '-'] ++ Punycode.encode label⟩
  read.filter fun r => r.label.all isAscii || (Label.isFit r.label && r.label.length ≤ maxLabel)

/-- Whether the labels keep to their directions, if the name has characters that ask for it. -/
def keepsDirections (labels : List (List Char)) : Bool :=
  let directions := labels.map fun label => label.map Label.direction
  !(directions.any fun ds => ds.any Label.Direction.isStrict) ||
    directions.all Label.keepsDirection

/-- The ASCII form of a name, if it is one. -/
def toAscii (name : List Char) : Option (List Char) := do
  let normal ← normal? name
  let labels ← (normal.splitOn '.').mapM readLabel
  if keepsDirections (labels.map (·.label)) then
    return List.intercalate ['.'] (labels.map (·.ascii))
  else none

end Domain

end Bistro
