import SlideDeck.Fault
import SlideDeck.Text.Blank

/-! The canvas of a slide: its aspect ratio, which way it stands, and what it is shown for. -/

namespace SlideDeck

structure Ratio where
  numerator : Nat
  denominator : Nat
deriving DecidableEq, Repr

namespace Ratio

def swap (r : Ratio) : Ratio := ⟨r.denominator, r.numerator⟩

/-- A denominator of zero counts as one. -/
def value (r : Ratio) : Float32 := r.numerator.toFloat32 / (max r.denominator 1).toFloat32

def text (r : Ratio) : String :=
  .ofList (Nat.toDigits 10 r.numerator ++ ':' :: Nat.toDigits 10 r.denominator)

end Ratio

inductive AspectRatio
  | wide
  | standard
  | square
deriving DecidableEq, Repr

namespace AspectRatio

def ratio : AspectRatio → Ratio
  | .wide => ⟨16, 9⟩
  | .standard => ⟨4, 3⟩
  | .square => ⟨1, 1⟩

def name (a : AspectRatio) : String := a.ratio.text

def names : List (String × AspectRatio) :=
  [("16/9", .wide), ("16:9", .wide), ("4/3", .standard), ("4:3", .standard), ("1/1", .square),
    ("1:1", .square)]

/-- Reads a name; spaces count nowhere, and other white space not at the ends. -/
def read (s : String) : Except Fault AspectRatio :=
  match names.lookup (.ofList ((Text.trim s.toList).filter (· != ' '))) with
  | some a => .ok a
  | none => .error (.aspectRatio s)

end AspectRatio

def foldName (s : String) : String := .ofList ((Text.trim s.toList).map Char.toLower)

inductive Orientation
  | landscape
  | portrait
deriving DecidableEq, Repr

namespace Orientation

def name : Orientation → String
  | .landscape => "landscape"
  | .portrait => "portrait"

def names : List (String × Orientation) := [("landscape", .landscape), ("portrait", .portrait)]

def read (s : String) : Except Fault Orientation :=
  match names.lookup (foldName s) with
  | some o => .ok o
  | none => .error (.orientation (foldName s))

end Orientation

inductive RenderMode
  | thumbnail
  | fullscreen
deriving DecidableEq, Repr

namespace RenderMode

def name : RenderMode → String
  | .thumbnail => "thumbnail"
  | .fullscreen => "fullscreen"

def names : List (String × RenderMode) := [("thumbnail", .thumbnail), ("fullscreen", .fullscreen)]

def read (s : String) : Except Fault RenderMode :=
  match names.lookup (foldName s) with
  | some m => .ok m
  | none => .error (.renderMode (foldName s))

end RenderMode

structure Canvas where
  aspectRatio : AspectRatio
  orientation : Orientation
  mode : RenderMode
deriving DecidableEq, Repr

namespace Canvas

def default : Canvas := ⟨.wide, .landscape, .thumbnail⟩

def ratio (c : Canvas) : Ratio :=
  match c.orientation with
  | .landscape => c.aspectRatio.ratio
  | .portrait => c.aspectRatio.ratio.swap

def size (c : Canvas) (short : Float32) : Float32 × Float32 :=
  let r := c.ratio.value
  if 1 ≤ r then (short * r, short) else (short, short / r)

end Canvas

end SlideDeck
