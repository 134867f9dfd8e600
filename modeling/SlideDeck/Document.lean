/-! The content of a deck: runs of text in one weight, blocks of runs, slides and the document.
A slide has no identity but its index in the document. -/

namespace SlideDeck

structure Run where
  text : String
  bold : Bool
deriving DecidableEq, Repr

namespace Run

def plain (text : String) : Run := ⟨text, false⟩

def strong (text : String) : Run := ⟨text, true⟩

end Run

def plainText (runs : List Run) : String := String.join (runs.map Run.text)

structure Cell where
  runs : List Run
deriving DecidableEq, Repr

structure Row where
  cells : List Cell
  isHeader : Bool
deriving DecidableEq, Repr

inductive Block
  | heading (level : UInt8) (runs : List Run)
  | text (runs : List Run) (bullet : Bool)
  | table (rows : List Row)
deriving DecidableEq, Repr

def Block.isBullet : Block → Bool
  | .text _ bullet => bullet
  | _ => false

structure Slide where
  title : Option String
  blocks : List Block
deriving DecidableEq, Repr

namespace Slide

def empty : Slide := ⟨none, []⟩

def displayTitle (s : Slide) : String := s.title.getD "No Title"

def isEmpty (s : Slide) : Bool := s.title.isNone && s.blocks.isEmpty

end Slide

structure Document where
  slides : List Slide
deriving DecidableEq, Repr

namespace Document

def size (d : Document) : Nat := d.slides.length

def isEmpty (d : Document) : Bool := d.slides.isEmpty

end Document

def maxLevel : Nat := 6

def clampLevel (n : Nat) : Nat := max 1 (min n maxLevel)

end SlideDeck
