import SlideDeck.Document
import SlideDeck.Geometry.Measure

/-! The width of text without a font at hand: every character has a width in em that depends on
what kind of character it is. Layout is the same on every machine. -/

namespace SlideDeck.Layout

def charWidth (c : Char) : Float32 :=
  let n := c.toNat
  if c = ' ' then 0.28
  else if c = '\t' then 1.12
  else if c ∈ ['i', 'j', 'l', 'I', '.', ',', ':', ';', '|', '!', '\'', '`'] then 0.26
  else if c ∈ ['f', 't', 'r', '(', ')', '[', ']', '\x7b', '\x7d', '-', '"'] then 0.36
  else if c ∈ ['m', 'w'] then 0.84
  else if c ∈ ['M', 'W', '@', '%', '&', '#'] then 0.92
  else if 'A'.toNat ≤ n ∧ n ≤ 'Z'.toNat then 0.66
  else if '0'.toNat ≤ n ∧ n ≤ '9'.toNat then 0.58
  else if 'a'.toNat ≤ n ∧ n ≤ 'z'.toNat then 0.55
  else if (0x2E80 ≤ n ∧ n ≤ 0x9FFF) ∨ (0xAC00 ≤ n ∧ n ≤ 0xD7AF) ∨ (0xFF00 ≤ n ∧ n ≤ 0xFFEF) then 1
  else 0.6

def boldFactor : Float32 := 1.06

def textWidth (cs : List Char) (size : Float32) (bold : Bool) : Float32 :=
  let width := total (cs.map charWidth) * size
  if bold then width * boldFactor else width

def runsWidth (runs : List Run) (size : Float32) (bold : Bool) : Float32 :=
  total (runs.map fun r => textWidth r.text.toList size (bold || r.bold))

end SlideDeck.Layout
