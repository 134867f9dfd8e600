import SlideDeck.Decimal.Literal
import SlideDeck.Text.Bytes

/-! Numbers at the start of JSON text. Digits count as long as they make a natural number of 64
bits; later whole digits only shift the point, and later digits behind the point are passed over.
A number with a point or an exponent is the one natural number scaled by the power of ten, where
both are rounded before they meet. -/

namespace SlideDeck.Json

inductive Number
  | whole (n : Int)
  | real (x : Float)

namespace Number

inductive Fault
  | ended
  | malformed
  | tooLarge
deriving DecidableEq, Repr

def Fault.message : Fault → String
  | .ended => "EOF while parsing a value"
  | .malformed => "invalid number"
  | .tooLarge => "number out of range"

structure Stop where
  fault : Fault
  rest : List Char
deriving DecidableEq, Repr

def naturals : Nat := 0x10000000000000000

def exponents : Nat := 0x80000000

def takeDigits (bound n : Nat) : List Char → Nat × List Char
  | [] => (n, [])
  | c :: cs =>
    match Text.digit? 10 c with
    | some d => if n * 10 + d < bound then takeDigits bound (n * 10 + d) cs else (n, c :: cs)
    | none => (n, c :: cs)

def startsWithDigit : List Char → Bool
  | [] => false
  | c :: _ => c.isDigit

def powerOfTen (n : Nat) : Float := (⟨1, n⟩ : Decimal).toDouble

def topPower : Nat := 308

def scale? (x : Float) (power : Int) : Option Float :=
  if power.natAbs ≤ topPower then
    if 0 ≤ power then
      let y := x * powerOfTen power.natAbs
      if y.isInf then none else some y
    else some (x / powerOfTen power.natAbs)
  else if x == 0 then some x
  else if 0 ≤ power then none
  else scale? (x / powerOfTen topPower) (power + topPower)
termination_by (-power).toNat
decreasing_by
  simp only [topPower] at *
  omega

def scaled (n : Nat) (power : Int) (rest : List Char) : Except Stop (Float × List Char) :=
  match scale? (⟨n, 0⟩ : Decimal).toDouble power with
  | some x => .ok (x, rest)
  | none => .error ⟨.tooLarge, rest⟩

def exponent (n : Nat) (power : Int) (cs : List Char) : Except Stop (Float × List Char) :=
  let (negative, cs) := Decimal.splitSign cs
  if cs.isEmpty then .error ⟨.ended, []⟩
  else if !startsWithDigit cs then .error ⟨.malformed, cs⟩
  else
    let (e, rest) := takeDigits exponents 0 cs
    if startsWithDigit rest then
      if n ≠ 0 && !negative then .error ⟨.tooLarge, rest.drop 1⟩
      else .ok (0, rest.dropWhile Char.isDigit)
    else scaled n (if negative then power - e else power + e) rest

def behindDigits (n : Nat) (power : Int) (cs : List Char) : Except Stop (Float × List Char) :=
  match cs with
  | 'e' :: rest => exponent n power rest
  | 'E' :: rest => exponent n power rest
  | _ => scaled n power cs

def fraction (n : Nat) (power : Int) (cs : List Char) : Except Stop (Float × List Char) :=
  if cs.isEmpty then .error ⟨.ended, []⟩
  else if !startsWithDigit cs then .error ⟨.malformed, cs⟩
  else
    let (m, rest) := takeDigits naturals n cs
    behindDigits m (power - (cs.length - rest.length : Nat)) (rest.dropWhile Char.isDigit)

/-- Reads on behind the whole digits, `dropped` of which are not in `n`. -/
def behindWhole (n dropped : Nat) (cs : List Char) : Except Stop (Number × List Char) :=
  match cs with
  | '.' :: rest => (fraction n dropped rest).map fun r => (.real r.1, r.2)
  | c :: _ =>
    if dropped = 0 && c ≠ 'e' && c ≠ 'E' then .ok (.whole n, cs)
    else (behindDigits n dropped cs).map fun r => (.real r.1, r.2)
  | [] =>
    if dropped = 0 then .ok (.whole n, [])
    else (scaled n dropped []).map fun r => (.real r.1, r.2)

def magnitude (cs : List Char) : Except Stop (Number × List Char) :=
  match cs with
  | [] => .error ⟨.ended, []⟩
  | '0' :: rest => if startsWithDigit rest then .error ⟨.malformed, rest⟩ else behindWhole 0 0 rest
  | _ =>
    if startsWithDigit cs then
      let (n, rest) := takeDigits naturals 0 cs
      let digits := rest.takeWhile Char.isDigit
      behindWhole n digits.length (rest.drop digits.length)
    else .error ⟨.malformed, cs⟩

/-- Negative zero is no whole number, nor is what is below the integers of 64 bits. -/
def negate : Number → Number
  | .whole n =>
    if n = 0 || 0x8000000000000000 < n then .real (-(⟨n.toNat, 0⟩ : Decimal).toDouble)
    else .whole (-n)
  | .real x => .real (-x)

def read (cs : List Char) : Except Stop (Number × List Char) :=
  match cs with
  | '-' :: rest => (magnitude rest).map fun r => (r.1.negate, r.2)
  | _ => magnitude cs

end Number

def endPosition (cs : List Char) : Nat × Nat :=
  (1 + cs.count '\n', Text.bytesIn (cs.reverse.takeWhile (· != '\n')))

/-- Where a fault shows: of a character that does not belong there, the first byte counts. -/
def Number.Stop.position (stop : Stop) (text : List Char) : Nat × Nat :=
  let before := text.take (text.length - stop.rest.length)
  match stop.fault, stop.rest with
  | .malformed, '\n' :: _ => endPosition (before ++ ['\n'])
  | .malformed, _ => ((endPosition before).1, (endPosition before).2 + 1)
  | _, _ => endPosition before

end SlideDeck.Json
