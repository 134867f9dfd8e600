/-! Where text stands in a box that is higher than the text. -/

namespace SlideDeck

inductive Align
  | top
  | middle
deriving DecidableEq, Repr

def Align.name : Align → String
  | .top => "top"
  | .middle => "middle"

end SlideDeck
