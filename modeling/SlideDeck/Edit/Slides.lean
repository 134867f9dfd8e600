import SlideDeck.Markup.Deck

/-! Edits of a deck's text by slide index: inserting, deleting and moving slides. An edit works
on the segments and joins them again. -/

namespace SlideDeck.Edit

inductive Direction
  | up
  | down
deriving DecidableEq, Repr

def newSlide : String := "\n\n# New Slide\n\n- Content"

/-- Inserts a segment before index `i`, or at the end of a shorter deck. -/
def insertSlide (deck : String) (i : Nat) (segment : String) : String :=
  let segments := Markup.segments deck
  Markup.join (segments.insertIdx (min i segments.length) segment)

def addSlide (deck : String) (i : Nat) : String := insertSlide deck i newSlide

/-- The items whose index, counted from `i`, is not listed. -/
def dropListed {α : Type} (listed : List Nat) (i : Nat) : List α → List α
  | [] => []
  | x :: xs => if i ∈ listed then dropListed listed (i + 1) xs else x :: dropListed listed (i + 1) xs

def deleteSlides (deck : String) (listed : List Nat) : String :=
  Markup.join (dropListed listed 0 (Markup.segments deck))

def insertIndex (i : Nat) : List Nat → List Nat
  | [] => [i]
  | j :: js => if i < j then i :: j :: js else if i = j then j :: js else j :: insertIndex i js

def ascending (listed : List Nat) : List Nat := listed.foldr insertIndex []

def swapNext {α : Type} : Nat → List α → List α
  | 0, a :: b :: rest => b :: a :: rest
  | i + 1, a :: rest => a :: swapNext i rest
  | _, rest => rest

/-- There is nothing to move, or a listed index is past the end or at the end it would move to. -/
def isBlocked (sorted : List Nat) (direction : Direction) (size : Nat) : Bool :=
  match sorted.head?, sorted.getLast? with
  | some first, some last =>
    size ≤ last ||
      match direction with
      | .up => first == 0
      | .down => last + 1 == size
  | _, _ => true

/-- Moves the items at the sorted indices one place. The first to move is the one at the front in
the direction of the move, so that neighbours stay together. -/
def shift {α : Type} (sorted : List Nat) (direction : Direction) (items : List α) : List α :=
  match direction with
  | .up => sorted.foldl (fun xs i => swapNext (i - 1) xs) items
  | .down => sorted.foldr (fun i xs => swapNext i xs) items

def shiftIndices (sorted : List Nat) : Direction → List Nat
  | .up => sorted.map (· - 1)
  | .down => sorted.map (· + 1)

/-- The text after a move and where the moved slides are; `none` if the move is blocked. -/
def move? (deck : String) (sorted : List Nat) (direction : Direction) : Option (String × List Nat) :=
  let segments := Markup.segments deck
  if isBlocked sorted direction segments.length then none
  else some (Markup.join (shift sorted direction segments), shiftIndices sorted direction)

def moveSlides (deck : String) (listed : List Nat) (direction : Direction) : String × List Nat :=
  let sorted := ascending listed
  (move? deck sorted direction).getD (deck, sorted)

def nextSlide (current count : Nat) : Nat := min (current + 1) (count - 1)

def previousSlide (current : Nat) : Nat := current - 1

end SlideDeck.Edit
