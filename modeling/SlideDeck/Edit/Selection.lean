import SlideDeck.Edit.Slides

/-! The slides picked in an overview of the deck, in the order in which they were picked, and the
edits that act on them. -/

namespace SlideDeck.Edit

structure Selection where
  picked : List Nat
deriving DecidableEq, Repr

namespace Selection

def empty : Selection := ⟨[]⟩

def single (i : Nat) : Selection := ⟨[i]⟩

def isEmpty (s : Selection) : Bool := s.picked.isEmpty

def contains (s : Selection) (i : Nat) : Bool := s.picked.contains i

def select (_s : Selection) (i : Nat) : Selection := single i

def toggle (s : Selection) (i : Nat) : Selection :=
  if s.contains i then ⟨s.picked.erase i⟩ else ⟨s.picked ++ [i]⟩

def clear (_s : Selection) : Selection := empty

/-- A new slide goes behind the last picked one, or to the end of the deck. -/
def insertionIndex (s : Selection) (count : Nat) : Nat :=
  match s.picked.max? with
  | some last => last + 1
  | none => count

def presentationStart (s : Selection) : Nat := s.picked.headD 0

def add (s : Selection) (deck : String) : String × Selection :=
  let count := Markup.segmentCount deck
  let i := min (s.insertionIndex count) count
  (addSlide deck i, single i)

def delete (s : Selection) (deck : String) : String × Selection :=
  if s.isEmpty then (deck, s) else (deleteSlides deck s.picked, empty)

def move (s : Selection) (deck : String) (direction : Direction) : String × Selection :=
  match move? deck (ascending s.picked) direction with
  | some (moved, picked) => (moved, ⟨picked⟩)
  | none => (deck, s)

end Selection

end SlideDeck.Edit
