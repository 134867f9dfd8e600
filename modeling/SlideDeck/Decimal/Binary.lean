/-! Floating-point numbers as exact values: a sign, and a natural number times a power of two. -/

namespace SlideDeck.Decimal

/-- The non-negative number `mantissa * 2 ^ exponent`, with what its neighbours are. -/
structure Binary where
  mantissa : Nat
  exponent : Int
  /-- The neighbour below is half as far away as the one above. -/
  narrowBelow : Bool
deriving DecidableEq, Repr

inductive Value
  | nan
  | infinite (negative : Bool)
  | finite (negative : Bool) (magnitude : Binary)
deriving DecidableEq, Repr

def Value.ofBits (fraction width bits : Nat) : Value :=
  let f := bits % Nat.pow 2 fraction
  let e := bits / Nat.pow 2 fraction % Nat.pow 2 width
  let negative := bits / Nat.pow 2 (fraction + width) % 2 == 1
  let least : Int := 2 - Nat.pow 2 (width - 1) - fraction
  if e + 1 == Nat.pow 2 width then if f == 0 then .infinite negative else .nan
  else if e == 0 then .finite negative ⟨f, least, false⟩
  else .finite negative ⟨Nat.pow 2 fraction + f, least + (e - 1 : Nat), f == 0 && e > 1⟩

def Value.ofSingle (x : Float32) : Value := .ofBits 23 8 x.toBits.toNat

def Value.ofDouble (x : Float) : Value := .ofBits 52 11 x.toBits.toNat

def Binary.quotient (b : Binary) : Nat × Nat :=
  (b.mantissa * Nat.pow 2 b.exponent.toNat, Nat.pow 2 (-b.exponent).toNat)

end SlideDeck.Decimal
