import SlideDeck.Layout.Table
import SlideDeck.Markup.Deck

/-! Slides laid out on the canvas. A slide has a bar with its title, a card with its blocks and a
footer. A cover has its title in the open, and its blocks in a card that is not filled. -/

namespace SlideDeck.Layout

def canvasSize (canvas : Canvas) (style : LayoutStyle) : Float32 × Float32 :=
  canvas.size (match canvas.mode with
    | .thumbnail => style.thumbnailShortSide
    | .fullscreen => style.fullscreenShortSide)

def barText (text : TextStyle) (regions : Regions) (style : LayoutStyle) (limit : Float32)
    (wrap : Bool) (content : String) : TextNode :=
  layText
    { font := .ofStyle text (text.fontSize * regions.fontScale) text.bold
      color := text.color
      limit := limit
      lineHeight := style.lineHeight
      wrap := wrap
      align := .middle } [.plain content]

def header (slide : Slide) (theme : Theme) (regions : Regions) (style : LayoutStyle) : Box :=
  let frame := regions.title.relativeTo regions.header
  .headerBar regions.header theme.colors.primary
    ⟨frame, barText theme.typography.header regions style frame.width false slide.displayTitle⟩

def coverTitle (slide : Slide) (theme : Theme) (regions : Regions) (style : LayoutStyle) : Box :=
  .coverTitle regions.coverTitle
    (barText theme.typography.header regions style regions.coverTitle.width style.wrapText
      slide.displayTitle)

def footer (theme : Theme) (regions : Regions) (style : LayoutStyle) : Box :=
  .footerBar regions.footer theme.footerFill
    ⟨regions.footerText.relativeTo regions.footer,
      barText theme.typography.footer regions style regions.footerText.width false
        style.footerCaption⟩

def bulletMark? (theme : Theme) (style : LayoutStyle) (bodySize : Float32) (bullet : Bool) :
    Option BulletMark :=
  if bullet && !theme.isCover then
    some ⟨style.bulletGlyph, theme.colors.primary,
      textWidth style.bulletGlyph.toList bodySize false + style.bulletGap * bodySize⟩
  else none

def layBlock (theme : Theme) (style : LayoutStyle) (bodySize y width : Float32) :
    Block → BodyNode
  | .heading level runs =>
    let text := layText
      { font := .ofStyle theme.typography.body (bodySize * style.scaleOf level) true
        color := theme.colors.primary
        limit := width
        lineHeight := style.lineHeight
        wrap := style.wrapText
        align := .top } runs
    .heading level (.make 0 y width text.height) text
  | .text runs bullet =>
    let mark := bulletMark? theme style bodySize bullet
    let indent := match mark with
      | some m => m.indent
      | none => 0
    let text := layText
      { font := .ofStyle theme.typography.body bodySize theme.typography.body.bold
        color := theme.colors.text
        limit := larger (width - indent) 1
        lineHeight := style.lineHeight
        wrap := style.wrapText
        align := .top } runs
    .line (.make 0 y width text.height) mark text
  | .table rows => .table (layTable theme style bodySize y width rows)

def layBlocks (theme : Theme) (style : LayoutStyle) (bodySize gap width : Float32) (y : Float32) :
    List Block → List BodyNode × Float32
  | [] => ([], y)
  | b :: bs =>
    let node := layBlock theme style bodySize y width b
    let (nodes, stop) := layBlocks theme style bodySize gap width (y + (node.frame.height + gap)) bs
    (node :: nodes, stop)

def card (slide : Slide) (theme : Theme) (regions : Regions) (style : LayoutStyle) : Box :=
  let cover := theme.isCover
  let frame := if cover then regions.coverBody else regions.card
  let content := (regions.bodyFor cover).relativeTo frame
  let bodySize := theme.typography.body.fontSize * regions.fontScale
  let gap := style.paragraphGap * bodySize
  let (nodes, stop) := layBlocks theme style bodySize gap content.width 0 slide.blocks
  let used := if nodes.isEmpty then 0 else stop - gap
  .card frame (if cover then none else some theme.colors.card)
    (if cover then 0 else regions.cardRadius) content nodes (content.height + 0.5 < used)

def describe (slide : Slide) (theme : Theme) (canvas : Canvas) (style : LayoutStyle) :
    Descriptor :=
  let (width, height) := canvasSize canvas style
  let regions := Regions.ofSize width height
  { width := width
    height := height
    ratio := canvas.ratio
    mode := canvas.mode
    theme := theme.name
    category := theme.category
    background := theme.colors.background
    children :=
      [if theme.isCover then coverTitle slide theme regions style
        else header slide theme regions style,
        card slide theme regions style, footer theme regions style] }

def document (doc : Document) (s : Settings) : List Descriptor :=
  doc.slides.mapIdx fun i slide => describe slide (s.themeFor i) s.canvas s.layout

def deck (markdown : String) (s : Settings) : List Descriptor :=
  document (Markup.document markdown) s

end SlideDeck.Layout
