import SlideDeck.Body
import SlideDeck.Drawing.Op
import SlideDeck.Markup.Deck
import SlideDeck.Settings

/-! The commands that draw a slide: the page, the filled shapes, and then text boxes for title,
footer and body. Text is inserted into a box once, styled as a whole, and after that line by line
and stretch by stretch. A text box whose text is empty stays empty. -/

namespace SlideDeck.Drawing

inductive Role
  | page
  | header
  | footer
  | card
  | title
  | caption
  | body
deriving DecidableEq, Repr

def Role.name : Role → String
  | .page => "page"
  | .header => "header"
  | .footer => "footer"
  | .card => "card"
  | .title => "title"
  | .caption => "caption"
  | .body => "body"

def objectId (idPrefix : String) (slide : Nat) (role : String) : String :=
  idPrefix ++ "_" ++ Text.numeral slide ++ "_" ++ role

structure Sheet where
  index : Nat
  theme : Theme
  layout : LayoutStyle
  style : DrawingStyle

namespace Sheet

def id (s : Sheet) (role : Role) : String := objectId s.style.idPrefix s.index role.name

def fontSize (points : Float32) : Float32 := points * Regions.reference.fontScale

def bodySize (s : Sheet) : Float32 := fontSize s.theme.typography.body.fontSize

def surface (s : Sheet) : List Op :=
  [.createSurface (s.id .page) s.index, .setFill (s.id .page) .page s.theme.colors.background]

def filledShape (s : Sheet) (role : Role) (kind : ShapeKind) (frame : Rect) (color : Color) :
    List Op :=
  [.createShape (s.id role) (s.id .page) kind frame none, .setFill (s.id role) .shape color]

/-- The shapes behind the text. A cover has only that of the footer. -/
def shapes (s : Sheet) : List Op :=
  let r := Regions.reference
  let footer := s.filledShape .footer .rectangle r.footer s.theme.footerFill
  if s.theme.isCover then footer
  else
    s.filledShape .header .rectangle r.header s.theme.colors.primary ++
      (footer ++ s.filledShape .card .roundRectangle r.card s.theme.colors.card)

def textBox (s : Sheet) (role : Role) (frame : Rect) (align : Align) : Op :=
  .createShape (s.id role) (s.id .page) .textBox frame (some align)

def fillText (s : Sheet) (role : Role) (text : String) (style : TextStyle) : List Op :=
  [.insertText (s.id role) text,
    .styleText (s.id role) .all (.ofStyle style (fontSize style.fontSize))]

def title (s : Sheet) (slide : Slide) : List Op :=
  s.textBox .title (Regions.reference.titleFor s.theme.isCover) .middle ::
    s.fillText .title slide.displayTitle s.theme.typography.header

def caption (s : Sheet) : List Op :=
  s.textBox .caption Regions.reference.footerText .middle ::
    if s.layout.footerCaption.isEmpty then []
    else s.fillText .caption s.layout.footerCaption s.theme.typography.footer

def lineChange? (s : Sheet) : LineKind → Option StyleChange
  | .heading level =>
    some
      { fontSize := some (s.bodySize * s.layout.scaleOf level)
        bold := some true
        color := some s.theme.colors.primary }
  | .row true => some .embolden
  | .row false => none
  | .text _ => none

def styleBody (s : Sheet) (extent : Extent) (change : StyleChange) : Op :=
  .styleText (s.id .body) extent change

/-- The style of plain body text, which has the theme's text colour. -/
def bodyChange (s : Sheet) : StyleChange :=
  { StyleChange.ofStyle s.theme.typography.body s.bodySize with
    color := some s.theme.colors.text }

/-- Styles for the lines that have text and are not plain. -/
def lineStyles (s : Sheet) (body : Body) : List Op :=
  (body.lines.filter fun l => !l.span.isEmpty).filterMap fun l =>
    (s.lineChange? l.kind).map (s.styleBody (.fixed l.span))

def boldStyles (s : Sheet) (body : Body) : List Op :=
  (body.bold.filter fun span => !span.isEmpty).map fun span => s.styleBody (.fixed span) .embolden

def bullets (s : Sheet) (body : Body) : List Op :=
  if s.theme.isCover then []
  else body.bulletSpans.map fun span => .addBullets (s.id .body) span s.style.bulletPreset

def bodyText (s : Sheet) (body : Body) : List Op :=
  if body.text.isEmpty then []
  else
    [.insertText (s.id .body) body.text, s.styleBody .all s.bodyChange] ++
      (s.lineStyles body ++
        (s.boldStyles body ++ (.alignParagraphs (s.id .body) .all .start :: s.bullets body)))

def body (s : Sheet) (slide : Slide) : List Op :=
  s.textBox .body (Regions.reference.bodyFor s.theme.isCover) .top ::
    s.bodyText (.ofBlocks slide.blocks)

def ops (s : Sheet) (slide : Slide) : List Op :=
  s.surface ++ (s.shapes ++ (s.title slide ++ (s.caption ++ s.body slide)))

end Sheet

def slide (index : Nat) (slide : Slide) (theme : Theme) (layout : LayoutStyle)
    (style : DrawingStyle) : List Op :=
  Sheet.ops ⟨index, theme, layout, style⟩ slide

def document (doc : Document) (s : Settings) : List Op :=
  (doc.slides.mapIdx fun i page => slide i page (s.themeFor i) s.layout s.drawing).flatten

def deck (markdown : String) (s : Settings) : List Op := document (Markup.document markdown) s

end SlideDeck.Drawing
