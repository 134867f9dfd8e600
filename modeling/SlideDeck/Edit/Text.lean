import SlideDeck.Document
import SlideDeck.Text.Blank
import SlideDeck.Text.Bytes

/-! Edits at a cursor: making a line a heading and wrapping a stretch of text. Cursors are byte
positions; a position inside a character or past the end is moved down to a place where a
character ends. -/

namespace SlideDeck.Edit

structure Edited where
  text : String
  start : Nat
  stop : Nat
deriving DecidableEq, Repr

def splitLastLine (cs : List Char) : List Char × List Char :=
  let line := (cs.reverse.takeWhile (· != '\n')).reverse
  (cs.take (cs.length - line.length), line)

/-- The line without a heading marker: number signs and the white space behind them. -/
def stripMarker (line : List Char) : List Char :=
  if line.head? = some '#' then Text.trimStart (line.dropWhile (· == '#')) else line

def headingLine (level : Nat) (line : List Char) : List Char :=
  List.replicate (clampLevel level) '#' ++ ' ' :: stripMarker line

/-- Makes the line at the cursor a heading; the cursor goes to the end of the line. -/
def applyHeading (deck : String) (cursor : Nat) (level : Nat) : Edited :=
  let (before, after) := Text.splitBytes cursor deck.toList
  let (above, left) := splitLastLine before
  let line := headingLine level (left ++ after.takeWhile (· != '\n'))
  let caret := Text.bytesIn (above ++ line)
  ⟨.ofList (above ++ line ++ after.dropWhile (· != '\n')), caret, caret⟩

def wrapSelection (deck : String) (start stop : Nat) (opening closing : String) : Edited :=
  let (before, rest) := Text.splitBytes (min start stop) deck.toList
  let (inner, after) := Text.splitBytes (max start stop - Text.bytesIn before) rest
  let first := Text.bytesIn before + Text.bytesIn opening.toList
  ⟨.ofList (before ++ opening.toList ++ inner ++ closing.toList ++ after), first,
    first + Text.bytesIn inner⟩

end SlideDeck.Edit
