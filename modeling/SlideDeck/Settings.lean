import SlideDeck.Geometry.Canvas
import SlideDeck.Theme.Registry

/-! Everything that shapes the output for a deck besides its text. -/

namespace SlideDeck

/-- How slides are laid out. Lengths are in em where nothing else is said. -/
structure LayoutStyle where
  lineHeight : Float32
  paragraphGap : Float32
  /-- Sizes of headings relative to the body, for levels one to six. -/
  headingScale : Vector Float32 6
  bulletGlyph : String
  bulletGap : Float32
  wrapText : Bool
  tableFontScale : Float32
  /-- In em of the table's font. -/
  tableCellPadding : Float32
  footerCaption : String
  thumbnailShortSide : Float32
  fullscreenShortSide : Float32

namespace LayoutStyle

def default : LayoutStyle where
  lineHeight := 1.5
  paragraphGap := 0.35
  headingScale := #v[1.5, 1.3, 1.15, 1.05, 1.0, 0.95]
  bulletGlyph := "•"
  bulletGap := 0.6
  wrapText := true
  tableFontScale := 0.9
  tableCellPadding := 0.4
  footerCaption := "Made with slidemark"
  thumbnailShortSide := 270
  fullscreenShortSide := 720

/-- The scale of headings of a level; a level out of range counts as the nearest one. -/
def scaleOf (s : LayoutStyle) (level : UInt8) : Float32 :=
  match level.toNat with
  | 0 | 1 => s.headingScale[0]
  | 2 => s.headingScale[1]
  | 3 => s.headingScale[2]
  | 4 => s.headingScale[3]
  | 5 => s.headingScale[4]
  | _ => s.headingScale[5]

end LayoutStyle

structure DrawingStyle where
  idPrefix : String
  bulletPreset : String
deriving DecidableEq, Repr

def DrawingStyle.default : DrawingStyle := ⟨"sm", "BULLET_DISC_CIRCLE_SQUARE"⟩

structure PictureStyle where
  width : Float32
  height : Float32
  fontFamily : String
deriving DecidableEq

def PictureStyle.default : PictureStyle := ⟨1280, 720, "Roboto"⟩

structure Settings where
  registry : Registry
  assignment : Assignment
  canvas : Canvas
  layout : LayoutStyle
  drawing : DrawingStyle
  picture : PictureStyle

namespace Settings

def default : Settings where
  registry := .builtin
  assignment := .default
  canvas := .default
  layout := .default
  drawing := .default
  picture := .default

def themeFor (s : Settings) (slide : Nat) : Theme := s.registry.themeFor s.assignment slide

def unknownThemes (s : Settings) : List String :=
  s.assignment.ids.filter fun id => !s.registry.contains id

end Settings

end SlideDeck
