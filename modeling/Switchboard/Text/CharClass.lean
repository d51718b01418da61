namespace Switchboard.Text

-- A class of characters, given by the ranges of code points that it holds. Both ends of a
-- range belong to it, and the ranges stand in rising order.
structure CharClass where
  ranges : List (Nat × Nat)

namespace CharClass

-- The walk stops at the first range that starts above the code point.
private def covered (code : Nat) : List (Nat × Nat) → Bool
  | [] => false
  | (low, high) :: rest =>
      if code < low then false else if code ≤ high then true else covered code rest

def contains (cls : CharClass) (c : Char) : Bool := covered c.toNat cls.ranges

end CharClass

end Switchboard.Text
