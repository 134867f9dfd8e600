import SlideDeck.Json.Document
import SlideDeck.Json.Settings
import SlideDeck.Json.Theme
import SlideDeck.Layout.Overview

/-! Layouts as JSON. Boxes and blocks say what they are under `type`. -/

namespace SlideDeck.Layout

def Font.toJson (f : Font) : Json :=
  .record [("family", .text f.family), ("size", .single f.size), ("bold", .bool f.bold)]

def TextNode.toJson (t : TextNode) : Json :=
  .record
    [("runs", .listOf Run.toJson t.runs), ("lines", .listOf (.listOf Run.toJson) t.lines),
      ("font", t.font.toJson), ("color", t.color.toJson), ("lineHeight", .single t.lineHeight),
      ("valign", .text t.align.name), ("width", .single t.width),
      ("height", .single t.height)]

def TextBox.toJson (b : TextBox) : Json :=
  .record [("frame", b.frame.toJson), ("text", b.text.toJson)]

def BulletMark.toJson (m : BulletMark) : Json :=
  .record
    [("glyph", .text m.glyph), ("color", m.color.toJson), ("indent", .single m.indent)]

def RowNode.toJson (r : RowNode) : Json :=
  .record
    [("frame", r.frame.toJson), ("isHeaderRow", .bool r.isHeader),
      ("fill", .opt Color.toJson r.fill), ("cells", .listOf TextBox.toJson r.cells)]

def TableNode.toJson (t : TableNode) : Json :=
  .record
    [("frame", t.frame.toJson), ("columnWidths", .listOf .single t.columnWidths),
      ("cellPadding", .single t.cellPadding), ("border", t.border.toJson),
      ("rows", .listOf RowNode.toJson t.rows)]

def BodyNode.toJson : BodyNode → Json
  | .heading level frame text =>
    .record
      [("type", .text "heading"), ("level", .nat level.toNat), ("frame", frame.toJson),
        ("text", text.toJson)]
  | .line frame bullet text =>
    .record
      [("type", .text "line"), ("frame", frame.toJson), ("bullet", .opt BulletMark.toJson bullet),
        ("text", text.toJson)]
  | .table node => node.toJson.tagged "type" "table"

def Box.toJson : Box → Json
  | .headerBar frame fill title =>
    .record
      [("type", .text "headerBar"), ("frame", frame.toJson), ("fill", fill.toJson),
        ("title", title.toJson)]
  | .coverTitle frame text =>
    .record [("type", .text "coverTitle"), ("frame", frame.toJson), ("text", text.toJson)]
  | .card frame fill radius content children overflow =>
    .record
      [("type", .text "card"), ("frame", frame.toJson), ("fill", .opt Color.toJson fill),
        ("radius", .single radius), ("content", content.toJson),
        ("children", .listOf BodyNode.toJson children), ("overflow", .bool overflow)]
  | .footerBar frame fill caption =>
    .record
      [("type", .text "footerBar"), ("frame", frame.toJson), ("fill", fill.toJson),
        ("caption", caption.toJson)]

def Descriptor.toJson (d : Descriptor) : Json :=
  .record
    [("width", .single d.width), ("height", .single d.height), ("ratio", d.ratio.toJson),
      ("mode", .text d.mode.name), ("theme", .text d.theme), ("category", d.category.toJson),
      ("background", d.background.toJson), ("children", .listOf Box.toJson d.children)]

def SlideOverview.toJson (s : SlideOverview) : Json :=
  .record
    [("index", .nat s.index), ("title", .opt .text s.title), ("themeId", .text s.themeId),
      ("blockCount", .nat s.blockCount), ("layout", s.layout.toJson)]

def Overview.toJson (o : Overview) : Json :=
  .record
    [("slideCount", .nat o.slideCount), ("canvas", o.canvas.toJson),
      ("slides", .listOf SlideOverview.toJson o.slides)]

end SlideDeck.Layout
