import SlideDeck.Decimal.Literal
import SlideDeck.Json5.Term
import SlideDeck.Reading.Source

/-! JSON5 terms as a source of data. A number is whole or not by how it is written. A character
beyond the 16-bit units is written as two units, a lead and a trail. -/

namespace SlideDeck.Json5

open Reading

def wording : Wording where
  null := "unit value"
  real :=
    { leadingZeros := 400
      wholeDigits := 400
      tie := .up
      nan := "NaN"
      infinity := "inf" }

def Part.body : Part → List Char
  | .plain c => [c]
  | .escape c => [c]
  | .nul => ['0']
  | .hex digits => digits
  | .unit digits => digits

def hexNumber (cs : List Char) : Except Misfit Nat :=
  match Text.number? 16 0x100000000 cs with
  | some n => .ok n
  | none => .error .noHex

def escapedChar (c : Char) : Char :=
  if c = 'b' then '\x08'
  else if c = 'f' then '\x0c'
  else if c = 'n' then '\n'
  else if c = 'r' then '\r'
  else if c = 't' then '\t'
  else if c = 'v' then '\x0b'
  else c

def isLead (n : Nat) : Bool := 0xD800 ≤ n && n < 0xDC00

def isTrail (n : Nat) : Bool := 0xDC00 ≤ n && n < 0xE000

def pairedChar (lead trail : Nat) : Char :=
  Char.ofNat ((lead - 0xD800) * 0x400 + (trail - 0xDC00) + 0x10000)

def charsOf : List Part → Except Misfit (List Char)
  | [] => .ok []
  | .plain c :: ps => return c :: (← charsOf ps)
  | .escape c :: ps => return escapedChar c :: (← charsOf ps)
  | .nul :: ps => return '\x00' :: (← charsOf ps)
  | .hex digits :: ps => do
    let n ← hexNumber digits
    return Char.ofNat n :: (← charsOf ps)
  | .unit digits :: ps => do
    let n ← hexNumber digits
    if isTrail n then .error .unexpectedTrail
    else if isLead n then
      match ps with
      | [] => .error .missingTrail
      | p :: ps => do
        let m ← hexNumber p.body
        if isTrail m then return pairedChar n m :: (← charsOf ps) else .error .expectedTrail
    else return Char.ofNat n :: (← charsOf ps)

def textOf (parts : List Part) : Except Misfit String := String.ofList <$> charsOf parts

def hexDigits? : List Char → Option (List Char)
  | '0' :: x :: digits => if x = 'x' || x = 'X' then some digits else none
  | _ => none

def namedNumbers : List (String × Float) :=
  [("Infinity", 1 / 0), ("-Infinity", -1 / 0), ("NaN", 0 / 0), ("-NaN", 0 / 0)]

def real (token : List Char) : Except Misfit Float := do
  match namedNumbers.lookup (.ofList token), hexDigits? token with
  | some x, _ => .ok x
  | none, some digits => return .ofNat (← hexNumber digits)
  | none, none =>
    let (negative, rest) := Decimal.splitSign token
    if rest = "Infinity".toList || rest = "NaN".toList then .error .numberTooLarge
    else
      match Decimal.read? rest with
      | none => .error .noNumber
      | some d =>
        let x := d.toDouble
        if x.isFinite then .ok (if negative then -x else x) else .error .numberTooLarge

def isWhole (token : List Char) : Bool :=
  !token.contains '.' &&
    ((hexDigits? token).isSome || !(token.contains 'e' || token.contains 'E')) &&
    (namedNumbers.lookup (.ofList token)).isNone

def integer (token : List Char) : Except Misfit Int := do
  match hexDigits? token with
  | some digits => return (← hexNumber digits : Nat)
  | none =>
    let (negative, digits) := Decimal.splitSign token
    if digits.isEmpty || !digits.all Char.isDigit then .error .noInteger
    else
      let n := Decimal.naturalOf digits
      if negative then if n ≤ 0x8000000000000000 then .ok (-n) else .error .noInteger
      else if n < 0x8000000000000000 then .ok n
      else .error .noInteger

namespace Term

def look : Term → Except Misfit (View Term)
  | .null => .ok .null
  | .flag b => .ok (.flag b)
  | .number token => if isWhole token then .whole <$> integer token else .real <$> real token
  | .text parts => .text <$> textOf parts
  | .list vs => .ok (.list vs)
  | .record ms => .ok (.record (ms.map fun m => (textOf m.1, m.2)))

def isNull : Term → Bool
  | .null => true
  | _ => false

def single : Term → Except Misfit Float32
  | .number token => Float.toFloat32 <$> real token
  | _ => .error .noNumber

/-- A variant is its name, or a record whose first key is its name. -/
def choice : Term → Except Misfit (String × Option Term)
  | .text parts => (·, none) <$> textOf parts
  | .record ((k, _) :: _) => (·, none) <$> textOf k
  | .record [] => .error .emptyChoice
  | _ => .error .noChoice

mutual

def pass : Term → Except Misfit Unit
  | .list vs => passAll vs
  | .record ms => passMembers ms
  | .number token => if isWhole token then discard (integer token) else discard (real token)
  | .text parts => discard (textOf parts)
  | .null => .ok ()
  | .flag _ => .ok ()

def passAll : List Term → Except Misfit Unit
  | [] => .ok ()
  | v :: vs => do
    v.pass
    passAll vs

def passMembers : List (List Part × Term) → Except Misfit Unit
  | [] => .ok ()
  | (k, v) :: ms => do
    discard (textOf k)
    v.pass
    passMembers ms

end

instance : Source Term where
  look := look
  isNull := isNull
  single := single
  choice := choice
  pass := pass
  surplus? _ _ := none

end Term

end SlideDeck.Json5
