import SlideDeck.Decimal.Binary

/-! Rounding of quotients: to the nearest natural number, and to the nearest floating-point number.
A tie goes to the even neighbour. -/

namespace SlideDeck.Decimal

/-- The quotient of two naturals rounded to the nearest natural, and to the even one of two. -/
def roundDiv (n d : Nat) : Nat :=
  let q := n / d
  match compare (2 * (n % d)) d with
  | .lt => q
  | .gt => q + 1
  | .eq => if q % 2 == 0 then q else q + 1

def floorLog (n d : Nat) : Int :=
  let l : Int := n.log2 - d.log2
  if d * Nat.pow 2 l.toNat ≤ n * Nat.pow 2 (-l).toNat then l else l - 1

/-- The bit pattern of the number nearest to `n / d`, with `fraction` bits of fraction and `width`
bits of exponent. A mantissa that rounds up to a power of two carries into the exponent, as far as
the pattern of infinity. -/
def nearestBits (fraction width n d : Nat) : Nat :=
  if n = 0 then 0
  else
    let least : Int := 2 - Nat.pow 2 (width - 1) - fraction
    let e := max least (floorLog n d - fraction)
    let mantissa := roundDiv (n * Nat.pow 2 (-e).toNat) (d * Nat.pow 2 e.toNat)
    min ((e - least).toNat * Nat.pow 2 fraction + mantissa)
      ((Nat.pow 2 width - 1) * Nat.pow 2 fraction)

end SlideDeck.Decimal
