import SlideDeck.Geometry.Measure

/-! Rectangles, and the regions of a slide. The regions have the proportions of the reference
page, which is 720 points wide and 405 high. -/

namespace SlideDeck

structure Rect where
  x : Float32
  y : Float32
  width : Float32
  height : Float32
deriving DecidableEq

namespace Rect

/-- A rectangle whose sides are not negative. -/
def make (x y width height : Float32) : Rect := ⟨x, y, larger width 0, larger height 0⟩

def right (r : Rect) : Float32 := r.x + r.width

def bottom (r : Rect) : Float32 := r.y + r.height

def inset (r : Rect) (dx dy : Float32) : Rect :=
  make (r.x + dx) (r.y + dy) (r.width - 2 * dx) (r.height - 2 * dy)

def relativeTo (r origin : Rect) : Rect :=
  make (r.x - origin.x) (r.y - origin.y) r.width r.height

end Rect

structure Regions where
  page : Rect
  header : Rect
  footer : Rect
  card : Rect
  cardRadius : Float32
  title : Rect
  coverTitle : Rect
  footerText : Rect
  body : Rect
  coverBody : Rect
  /-- What a point of the reference page is on this page. -/
  fontScale : Float32
deriving DecidableEq

namespace Regions

def referenceWidth : Float32 := 720

def referenceHeight : Float32 := 405

def ofWidth (points : Float32) : Float32 := points / referenceWidth

def ofHeight (points : Float32) : Float32 := points / referenceHeight

def ofSize (width height : Float32) : Regions :=
  let headerHeight := height * ofHeight 50
  let footerHeight := height * ofHeight 30
  let marginX := width * ofWidth 20
  let marginY := height * ofHeight 20
  let footer := Rect.make 0 (height - footerHeight) width footerHeight
  let card := Rect.make marginX (headerHeight + marginY) (width - 2 * marginX)
    (height - headerHeight - footerHeight - 2 * marginY)
  let body := card.inset (width * ofWidth 20) (height * ofHeight 20)
  let coverInset := width * ofWidth 40
  let coverTitle := Rect.make coverInset (height * ofHeight 40) (width - 2 * coverInset)
    (height * ofHeight 80)
  let coverTop := coverTitle.bottom + marginY * 0.5
  { page := Rect.make 0 0 width height
    header := Rect.make 0 0 width headerHeight
    footer := footer
    card := card
    cardRadius := smaller height width * ofHeight 16
    title := Rect.make marginX 0 (width - 2 * marginX) headerHeight
    coverTitle := coverTitle
    footerText := Rect.make marginX footer.y (width - 2 * marginX) footerHeight
    body := body
    coverBody := Rect.make body.x coverTop body.width (footer.y - marginY - coverTop)
    fontScale := smaller width height / referenceHeight }

def reference : Regions := ofSize referenceWidth referenceHeight

def bodyFor (r : Regions) (cover : Bool) : Rect := if cover then r.coverBody else r.body

def titleFor (r : Regions) (cover : Bool) : Rect := if cover then r.coverTitle else r.title

end Regions

end SlideDeck
