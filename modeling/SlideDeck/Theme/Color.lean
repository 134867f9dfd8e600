import SlideDeck.Fault
import SlideDeck.Text.Blank
import SlideDeck.Text.Number

/-! Opaque colours of three channels, written as a number sign and six hexadecimal digits. -/

namespace SlideDeck

structure Color where
  red : UInt8
  green : UInt8
  blue : UInt8
deriving DecidableEq, Repr

namespace Color

def ofCode (n : Nat) : Color := ⟨.ofNat (n / 0x10000), .ofNat (n / 0x100), .ofNat n⟩

def channel? (digits : List Char) : Option UInt8 := (Text.number? 16 256 digits).map UInt8.ofNat

/-- Reads three or six hexadecimal digits; one digit a channel stands for two of it. -/
def ofDigits? : List Char → Option Color
  | [r, g, b] => do return ⟨← channel? [r, r], ← channel? [g, g], ← channel? [b, b]⟩
  | [r, r', g, g', b, b'] => do return ⟨← channel? [r, r'], ← channel? [g, g'], ← channel? [b, b']⟩
  | _ => none

def read (s : String) : Except Fault Color :=
  match ofDigits? ((Text.trim s.toList).dropWhile (· == '#')) with
  | some c => .ok c
  | none => .error (.color s)

def channelText (n : UInt8) : List Char :=
  let digits := Nat.toDigits 16 n.toNat
  if n < 16 then '0' :: digits else digits

def toHex (c : Color) : String :=
  .ofList ('#' :: (channelText c.red ++ channelText c.green ++ channelText c.blue))

def unit (n : UInt8) : Float32 := n.toFloat32 / 255

def toUnits (c : Color) : List Float32 := [unit c.red, unit c.green, unit c.blue]

end Color

end SlideDeck
