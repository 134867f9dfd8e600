import SlideDeck.Theme.Color

/-! Themes: the colours and the text styles of a slide, and the category, which decides whether
slides are covers. -/

namespace SlideDeck

inductive Category
  | cover
  | business
  | lecture
  | pitchDeck
deriving DecidableEq, Repr

namespace Category

def all : List Category := [.cover, .business, .lecture, .pitchDeck]

def label : Category → String
  | .cover => "Cover"
  | .business => "Business"
  | .lecture => "Lecture"
  | .pitchDeck => "Pitch Deck"

def names : List (String × Category) :=
  [("Cover", .cover), ("Business", .business), ("Lecture", .lecture), ("Pitch Deck", .pitchDeck),
    ("PitchDeck", .pitchDeck)]

end Category

structure TextStyle where
  fontFamily : String
  fontSize : Float32
  bold : Bool
  color : Color
deriving DecidableEq

structure Palette where
  background : Color
  primary : Color
  card : Color
  text : Color
deriving DecidableEq

structure Typography where
  header : TextStyle
  body : TextStyle
  footer : TextStyle
deriving DecidableEq

structure Theme where
  name : String
  category : Category
  colors : Palette
  typography : Typography
deriving DecidableEq

namespace Theme

def isCover (t : Theme) : Bool := t.category == .cover

def footerFill (t : Theme) : Color := if t.isCover then t.colors.background else t.colors.primary

end Theme

end SlideDeck
