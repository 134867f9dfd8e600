/-! Positions in 16-bit units: a character takes one unit, or two from U+10000 on. A range of
units names a piece of a text if both its ends fall between characters. -/

namespace SlideDeck.Text

def unitsOf (c : Char) : Nat := if c.toNat < 0x10000 then 1 else 2

def unitsIn : List Char → Nat
  | [] => 0
  | c :: cs => unitsOf c + unitsIn cs

def units (s : String) : Nat := unitsIn s.toList

@[simp] theorem unitsIn_nil : unitsIn [] = 0 := rfl

@[simp] theorem unitsIn_cons (c : Char) (cs : List Char) :
    unitsIn (c :: cs) = unitsOf c + unitsIn cs := rfl

@[simp] theorem unitsIn_append (a b : List Char) : unitsIn (a ++ b) = unitsIn a + unitsIn b := by
  induction a with
  | nil => simp
  | cons c a ih => simp [ih, Nat.add_assoc]

@[simp] theorem units_append (a b : String) : units (a ++ b) = units a + units b := by
  simp [units]

/-- Splits after `n` units; `none` if the text is shorter or a character straddles the place. -/
def splitUnits : Nat → List Char → Option (List Char × List Char)
  | 0, cs => some ([], cs)
  | _ + 1, [] => none
  | n + 1, c :: cs =>
    if unitsOf c ≤ n + 1 then
      (splitUnits (n + 1 - unitsOf c) cs).map fun (before, after) => (c :: before, after)
    else none

end SlideDeck.Text

namespace SlideDeck

structure Span where
  start : Nat
  stop : Nat
deriving DecidableEq, Repr

namespace Span

def size (s : Span) : Nat := s.stop - s.start

def isEmpty (s : Span) : Bool := s.size == 0

def shift (s : Span) (n : Nat) : Span := ⟨s.start + n, s.stop + n⟩

def covers (s : Span) (unit : Nat) : Bool := s.start ≤ unit && unit < s.stop

def slice (s : Span) (text : String) : Option String :=
  if s.start ≤ s.stop then do
    let (_, after) ← Text.splitUnits s.start text.toList
    let (piece, _) ← Text.splitUnits s.size after
    some (.ofList piece)
  else none

end Span

end SlideDeck
