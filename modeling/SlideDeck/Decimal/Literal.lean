import SlideDeck.Decimal.Nearest
import SlideDeck.Decimal.Shortest
import SlideDeck.Text.Number

/-! Decimals in text, and the binary numbers nearest to them. -/

namespace SlideDeck.Decimal

def naturalOf (digits : List Char) : Nat := (Text.digitsFrom? 10 0 digits).getD 0

def splitSign : List Char → Bool × List Char
  | '+' :: cs => (false, cs)
  | '-' :: cs => (true, cs)
  | cs => (false, cs)

def splitPoint (cs : List Char) : (List Char × List Char) × List Char :=
  let (whole, rest) := cs.span Char.isDigit
  match rest with
  | '.' :: rest =>
    let (fraction, rest) := rest.span Char.isDigit
    ((whole, fraction), rest)
  | _ => ((whole, []), rest)

def read? (cs : List Char) : Option Decimal :=
  let ((whole, fraction), rest) := splitPoint cs
  let digits := naturalOf (whole ++ fraction)
  if whole.isEmpty && fraction.isEmpty then none
  else
    match rest with
    | [] => some ⟨digits, -fraction.length⟩
    | e :: rest =>
      let (negative, power) := splitSign rest
      if (e = 'e' || e = 'E') && !power.isEmpty && power.all Char.isDigit then
        let power : Int := naturalOf power
        some ⟨digits, (if negative then -power else power) - fraction.length⟩
      else none

/-- Numbers of more digits than this before the point are infinite, and those with more zeros
behind it are zero. -/
def farthest : Int := 400

def toBits (fraction width : Nat) (d : Decimal) : Nat :=
  let size : Int := (Nat.toDigits 10 d.digits).length + d.exponent
  if d.digits = 0 || size < -farthest then 0
  else if farthest < size then nearestBits fraction width (Nat.pow 10 farthest.toNat) 1
  else
    nearestBits fraction width (d.digits * Nat.pow 10 d.exponent.toNat)
      (Nat.pow 10 (-d.exponent).toNat)

def toDouble (d : Decimal) : Float := .ofBits (.ofNat (d.toBits 52 11))

def toSingle (d : Decimal) : Float32 := .ofBits (.ofNat (d.toBits 23 8))

end SlideDeck.Decimal
