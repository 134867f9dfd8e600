import SlideDeck.Decimal.Shortest

/-! How a decimal is laid out as text. -/

namespace SlideDeck.Decimal

structure Notation where
  /-- The decimal point may stand this many places before the first digit, or fewer. -/
  leadingZeros : Nat
  /-- Numbers with more digits than this before the point have an exponent. -/
  wholeDigits : Nat
  tie : Tie
  nan : String
  infinity : String
deriving DecidableEq, Repr

def digitText (n : Nat) : List Char := Nat.toDigits 10 n

def zeros (n : Nat) : List Char := List.replicate n '0'

def positional (digits : List Char) (whole : Int) : List Char :=
  if whole ≤ 0 then '0' :: '.' :: (zeros (-whole).toNat ++ digits)
  else
    let w := whole.toNat
    if digits.length ≤ w then digits ++ (zeros (w - digits.length) ++ ['.', '0'])
    else digits.take w ++ '.' :: digits.drop w

def exponential (digits : List Char) (whole : Int) : List Char :=
  let power := whole - 1
  let tail := match digits.drop 1 with
    | [] => []
    | rest => '.' :: rest
  digits.take 1 ++ tail ++ 'e' :: (if power < 0 then '-' else '+') :: digitText power.natAbs

namespace Notation

def layout (n : Notation) (d : Decimal) : List Char :=
  let digits := digitText d.digits
  let whole : Int := digits.length + d.exponent
  if -(n.leadingZeros : Int) ≤ whole && whole ≤ n.wholeDigits then positional digits whole
  else exponential digits whole

def render (n : Notation) : Value → String
  | .nan => n.nan
  | .infinite negative => if negative then "-" ++ n.infinity else n.infinity
  | .finite negative b =>
    .ofList ((if negative then ['-'] else []) ++ n.layout (b.shortest n.tie))

end Notation

end SlideDeck.Decimal
