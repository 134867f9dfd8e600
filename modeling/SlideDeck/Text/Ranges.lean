/-! Sets of characters as ascending lists of code points: alternately the first one of a range
and the first one behind it. -/

namespace SlideDeck.Text

def inRanges (bounds : List Nat) (c : Char) : Bool :=
  (bounds.takeWhile (· ≤ c.toNat)).length % 2 == 1

end SlideDeck.Text
