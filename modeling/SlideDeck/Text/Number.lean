/-! Whole numbers in text. A plus sign and leading zeros are allowed, white space is not. -/

namespace SlideDeck.Text

def digit? (base : Nat) (c : Char) : Option Nat :=
  let n := c.toNat
  let v :=
    if '0'.toNat ≤ n && n ≤ '9'.toNat then n - '0'.toNat
    else if 'a'.toNat ≤ n && n ≤ 'z'.toNat then n - 'a'.toNat + 10
    else if 'A'.toNat ≤ n && n ≤ 'Z'.toNat then n - 'A'.toNat + 10
    else base
  if v < base then some v else none

def digitsFrom? (base : Nat) (above : Nat) : List Char → Option Nat
  | [] => some above
  | c :: cs => (digit? base c).bind fun d => digitsFrom? base (above * base + d) cs

def dropPlus : List Char → List Char
  | '+' :: cs => cs
  | cs => cs

def number? (base bound : Nat) (cs : List Char) : Option Nat :=
  match dropPlus cs with
  | [] => none
  | digits => (digitsFrom? base 0 digits).filter (· < bound)

def numeral (n : Nat) : String := .ofList (Nat.toDigits 10 n)

def index? (s : String) : Option Nat := number? 10 0x10000000000000000 s.toList

end SlideDeck.Text
