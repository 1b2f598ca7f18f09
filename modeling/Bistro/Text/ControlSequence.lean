import Bistro.Text.Utf8

/-!
# Control sequences

Text for a terminal holds, beside what is shown, control characters and sequences of bytes that
begin with an escape and tell the terminal what to do. Here the text is reduced to what is shown:
a sequence that is not complete takes along what follows it, up to the next escape.
-/

namespace Bistro

namespace ControlSequence

/-- What the next byte is part of: text, or one of the kinds of sequences, at its beginning, among
its numbers, behind them, or in one that has gone wrong. -/
inductive State where
  | text
  | escape
  | escapeEnd
  | command
  | commandNumbers
  | commandEnd
  | commandIgnored
  | device
  | deviceNumbers
  | deviceEnd
  | deviceData
  | deviceIgnored
  | message
  | title
  deriving DecidableEq, Repr

/-- What follows the bytes `0x20` to `0x2F`, the digits with `:` and `;`, the signs `<` to `?`, and
anything up to `~`, in a sequence of one of the two kinds that have numbers. -/
def along (middle numbers signs last : State) (stay : State) (b : Nat) : State :=
  if b < 0x20 then stay
  else if b ≤ 0x2F then middle
  else if b ≤ 0x3B then numbers
  else if b ≤ 0x3F then signs
  else if b ≤ 0x7E then last
  else stay

/-- What follows an escape. -/
def afterEscape (b : Nat) : State :=
  if b < 0x20 then .escape
  else if b ≤ 0x2F then .escapeEnd
  else if b = 0x50 then .device
  else if b = 0x58 ∨ b = 0x5E ∨ b = 0x5F then .message
  else if b = 0x5B then .command
  else if b = 0x5D then .title
  else if b ≤ 0x7E then .text
  else .escape

def next (s : State) (b : Nat) : State :=
  if b = 0x18 ∨ b = 0x1A then .text
  else if b = 0x1B then .escape
  else
    match s with
    | .text => .text
    | .escape => afterEscape b
    | .escapeEnd => if 0x30 ≤ b ∧ b ≤ 0x7E then .text else .escapeEnd
    | .command => along .commandEnd .commandNumbers .commandNumbers .text s b
    | .commandNumbers => along .commandEnd .commandNumbers .commandIgnored .text s b
    | .commandEnd => along .commandEnd .commandIgnored .commandIgnored .text s b
    | .commandIgnored => along s s s .text s b
    | .device => along .deviceEnd .deviceNumbers .deviceNumbers .deviceData s b
    | .deviceNumbers => along .deviceEnd .deviceNumbers .deviceIgnored .deviceData s b
    | .deviceEnd => along .deviceEnd .deviceIgnored .deviceIgnored .deviceData s b
    | .deviceData | .deviceIgnored | .message => if b = 0x9C then .text else s
    | .title => if b = 0x07 then .text else s

/-- Whether controls are obeyed within a sequence, rather than being part of it. -/
def State.obeys : State → Bool
  | .text | .escape | .escapeEnd => true
  | .command | .commandNumbers | .commandEnd | .commandIgnored => true
  | _ => false

/-- Whether a byte is the beginning of something shown. -/
def isShown (s : State) (b : Nat) : Bool :=
  (s.obeys && [0x09, 0x0A, 0x0C, 0x0D].contains b) ||
    (s == .text && ((0x20 ≤ b && b ≤ 0x7E) || (0xC2 ≤ b && b ≤ 0xF4)))

/-- Whether a byte is one of the further bytes of a character. -/
def isFurther (b : Nat) : Bool :=
  0x80 ≤ b && b ≤ 0xBF

/-- The bytes that are shown; `inside` says whether the byte before was. -/
def shown (s : State) (inside : Bool) : List UInt8 → List UInt8
  | [] => []
  | b :: rest =>
    if isShown s b.toNat || (inside && isFurther b.toNat) then b :: shown .text true rest
    else shown (next s b.toNat) false rest

end ControlSequence

/-- What a terminal shows of a text, without styles. -/
def plainText (s : String) : String :=
  Utf8.read (ControlSequence.shown .text false (utf8 s))

end Bistro
