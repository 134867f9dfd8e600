import SlideDeck.Decimal.Nearest
import SlideDeck.Decimal.Notation

/-! Numbers with two decimal places: the exact value rounded, and a tie goes to the even
neighbour. -/

namespace SlideDeck.Decimal

def hundredths (n : Nat) : List Char :=
  let cents := n % 100
  digitText (n / 100) ++ '.' :: (if cents < 10 then '0' :: digitText cents else digitText cents)

/-- A negative number keeps its sign even where its digits are all zero. -/
def twoPlaces (x : Float32) : String :=
  match Value.ofSingle x with
  | .nan => "NaN"
  | .infinite negative => if negative then "-inf" else "inf"
  | .finite negative b =>
    let (n, d) := b.quotient
    let sign := if negative then ['-'] else []
    .ofList (sign ++ hundredths (roundDiv (n * 100) d))

end SlideDeck.Decimal
