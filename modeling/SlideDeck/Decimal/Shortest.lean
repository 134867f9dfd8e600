import SlideDeck.Decimal.Binary

/-! The shortest decimal that reads back to a binary number. The reals that round to the number
form an interval, from halfway to the neighbour below to halfway to the neighbour above, with its
ends when the mantissa is even. On the coarsest decimal grid that meets the interval, the point
nearest to the number is taken. -/

namespace SlideDeck

structure Decimal where
  digits : Nat
  exponent : Int
deriving DecidableEq, Repr

namespace Decimal

inductive Tie
  | toEven
  | up
deriving DecidableEq, Repr

def compareScaled (a : Nat) (i : Int) (n : Nat) (j : Int) : Ordering :=
  compare (a * Nat.pow 10 i.toNat * Nat.pow 2 (-j).toNat)
    (n * Nat.pow 2 j.toNat * Nat.pow 10 (-i).toNat)

def Binary.readsBack (b : Binary) (d : Decimal) : Bool :=
  let low := if b.narrowBelow then 4 * b.mantissa - 1 else 4 * b.mantissa - 2
  let high := 4 * b.mantissa + 2
  let ends := b.mantissa % 2 == 0
  let l := compareScaled d.digits d.exponent low (b.exponent - 2)
  let h := compareScaled d.digits d.exponent high (b.exponent - 2)
  (l == .gt || (ends && l == .eq)) && (h == .lt || (ends && h == .eq))

def Binary.floorOn (b : Binary) (i : Int) : Nat :=
  b.mantissa * Nat.pow 2 b.exponent.toNat * Nat.pow 10 (-i).toNat /
    (Nat.pow 2 (-b.exponent).toNat * Nat.pow 10 i.toNat)

def Binary.onGrid? (b : Binary) (tie : Tie) (i : Int) : Option Decimal :=
  let d := b.floorOn i
  match b.readsBack ⟨d, i⟩, b.readsBack ⟨d + 1, i⟩ with
  | false, false => none
  | true, false => some ⟨d, i⟩
  | false, true => some ⟨d + 1, i⟩
  | true, true =>
    match compareScaled (2 * d + 1) i b.mantissa (b.exponent + 1), tie with
    | .gt, _ => some ⟨d, i⟩
    | .lt, _ => some ⟨d + 1, i⟩
    | .eq, .up => some ⟨d + 1, i⟩
    | .eq, .toEven => if d % 2 == 0 then some ⟨d, i⟩ else some ⟨d + 1, i⟩

def Binary.search (b : Binary) (tie : Tie) : Nat → Int → Decimal
  | 0, i => ⟨b.floorOn i, i⟩
  | steps + 1, i => (b.onGrid? tie i).getD (b.search tie steps (i - 1))

def Binary.topExponent (b : Binary) : Int :=
  let (n, d) := b.quotient
  if d ≤ n then (Nat.toDigits 10 (n / d)).length else 1 - (Nat.toDigits 10 (d / n)).length + 1

/-- Seventeen digits identify every number of at most 64 bits. -/
def Binary.shortest (b : Binary) (tie : Tie) : Decimal :=
  if b.mantissa == 0 then ⟨0, 0⟩ else b.search tie 20 b.topExponent

end Decimal

end SlideDeck
