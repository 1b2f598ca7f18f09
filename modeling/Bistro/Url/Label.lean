import Bistro.Text.Blank
import Bistro.Text.Composition
import Bistro.Url.LabelTable

/-!
# Labels of domain names

What labels with characters of any script have to satisfy beyond the choice of their characters:
a label does not begin with a mark, the two invisible joiners stand only where they have an effect,
and in a name with characters from right to left each label keeps to one direction.
-/

namespace Bistro

namespace Label

def isNonspacing (c : Char) : Bool :=
  nonspacingTable.contains c

def isMark (c : Char) : Bool :=
  isNonspacing c || spacingTable.contains c

/-- Whether a character is passed over by letters that join. -/
def isPassed (c : Char) : Bool :=
  isNonspacing c || c.toNat == 0x1E94B

/-- The class of marks that leave a consonant without its vowel, behind which joiners may stand. -/
def viramaClass : Nat := 9

/-- Whether the first letter that is not passed over is in the table. -/
def reaches (table : CodeTable) (s : List Char) : Bool :=
  match s.dropWhile isPassed with
  | [] => false
  | c :: _ => table.contains c

/-- Whether a joiner may stand between what is before it, the last one first, and what follows. -/
def joinerFits (joiner : Char) (before after : List Char) : Bool :=
  (before.head?.map Composition.markClass) == some viramaClass ||
    (joiner.toNat == 0x200C && reaches joinsNextTable before && reaches joinsPreviousTable after)

/-- Whether all joiners may stand where they do; `before` is read already, the last one first. -/
def joinersFit (before : List Char) : List Char → Bool
  | [] => true
  | c :: rest =>
    ((c.toNat != 0x200C && c.toNat != 0x200D) || joinerFits c before rest) &&
      joinersFit (c :: before) rest

/-- Whether a label of any script may stand alone. -/
def isFit (label : List Char) : Bool :=
  !(label.head?.any isMark) && joinersFit [] label

/-- Which way characters are written. -/
inductive Direction where
  | leftToRight
  | rightToLeft
  | europeanDigit
  | arabicDigit
  | neutral
  | mark
  deriving DecidableEq, Repr

def direction (c : Char) : Direction :=
  if europeanDigitTable.contains c then .europeanDigit
  else if neutralTable.contains c then .neutral
  else if rightToLeftTable.contains c then .rightToLeft
  else if arabicDigitTable.contains c then .arabicDigit
  else if isNonspacing c && !leftToRightMarkTable.contains c then .mark
  else .leftToRight

/-- Whether a name with such characters has to keep to the directions. -/
def Direction.isStrict : Direction → Bool
  | .rightToLeft | .arabicDigit => true
  | _ => false

/-- Whether a label, given by the directions of its characters, keeps to the one it begins with: it
ends in that direction, or in a digit, and digits are of one kind where they are read backwards. -/
def keepsDirection (label : List Direction) : Bool :=
  let last := (dropEndWhile (· == .mark) label).getLast?
  match label.head? with
  | none => true
  | some .leftToRight =>
    label.all (fun d => !d.isStrict) && last.any fun d => d == .leftToRight || d == .europeanDigit
  | some .rightToLeft =>
    label.all (· != .leftToRight) && last.any (· != .neutral) &&
      !(label.contains .europeanDigit && label.contains .arabicDigit)
  | some _ => false

end Label

end Bistro
