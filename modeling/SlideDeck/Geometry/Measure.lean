/-! Measures are single-precision numbers. A NaN is no measure: of two numbers it is never the
larger or the smaller one. Of the two zeros neither is larger: the second one given is taken. -/

namespace SlideDeck

def larger (a b : Float32) : Float32 := if a.isNaN ∨ b ≥ a then b else a

def smaller (a b : Float32) : Float32 := if a.isNaN ∨ b ≤ a then b else a

/-- The sum from left to right. It starts from negative zero, the one number that leaves every
other as it is, so the sum of no numbers is negative zero. -/
def total (xs : List Float32) : Float32 := xs.foldl (· + ·) (-0)

def largest (xs : List Float32) : Float32 := xs.foldl larger 0

end SlideDeck
