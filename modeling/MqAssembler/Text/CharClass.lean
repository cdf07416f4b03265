/-! # Classes of characters

A class is a list of closed ranges of code points in ascending order, so a search may stop at
the first range beyond the character. -/

namespace MqAssembler.Text

/-- A set of characters, given by ascending ranges of code points. -/
structure CharClass where
  ranges : List (Nat × Nat)

namespace CharClass

/-- Whether a code point lies in one of some ascending ranges. -/
def covers : List (Nat × Nat) → Nat → Bool
  | [], _ => false
  | (low, high) :: rest, n =>
      if n < low then false else if n ≤ high then true else covers rest n

/-- Whether a character belongs to the class. -/
def contains (k : CharClass) (c : Char) : Bool :=
  covers k.ranges c.toNat

end CharClass

end MqAssembler.Text
