import SlideDeck.Decimal.Fixed
import SlideDeck.Layout.Descriptor
import SlideDeck.Svg.Element

/-! Pictures of slides. Every line of text that has runs is an element of its own with a part for
each run; frames are painted before the text in them. -/

namespace SlideDeck.Svg

/-- How far a baseline is below the middle of its line, in em. -/
def baselineShift : Float32 := 0.35

def num (x : Float32) : String := Decimal.twoPlaces x

def place (x y : Float32) : List (String × String) := [("x", num x), ("y", num y)]

def extent (width height : Float32) : List (String × String) :=
  [("width", num width), ("height", num height)]

def filledRect (x y : Float32) (frame : Rect) (radius : Float32) (fill : Color) : Element :=
  .leaf "rect"
    (place x y ++ (extent frame.width frame.height ++
      [("rx", num radius), ("ry", num radius), ("fill", fill.toHex)]))

def fontAttributes (font : Layout.Font) : List (String × String) :=
  [("font-family", font.family), ("font-size", num font.size)]

def span (bold : Bool) (run : Run) : Element :=
  .node "tspan" (if run.bold && !bold then [("font-weight", "bold")] else []) [.text run.text]

def linesFrom (x top : Float32) (text : Layout.TextNode) (index : Nat) :
    List (List Run) → List Element
  | [] => []
  | line :: rest =>
    if line.isEmpty then linesFrom x top text (index + 1) rest
    else
      let baseline := top + index.toFloat32 * text.lineHeight + text.lineHeight / 2 +
        text.font.size * baselineShift
      .node "text"
        (place x baseline ++ (fontAttributes text.font ++
          [("font-weight", if text.font.bold then "bold" else "normal"),
            ("fill", text.color.toHex), ("xml:space", "preserve")]))
        (line.map (span text.font.bold)) :: linesFrom x top text (index + 1) rest

def lines (x y height : Float32) (text : Layout.TextNode) : List Element :=
  let top := match text.align with
    | .top => y
    | .middle => y + (height - text.height) / 2
  linesFrom x top text 0 text.lines

def bullet (x y : Float32) (mark : Layout.BulletMark) (text : Layout.TextNode) : Element :=
  .node "text"
    (place x (y + text.lineHeight / 2 + text.font.size * baselineShift) ++
      (fontAttributes text.font ++ [("fill", mark.color.toHex)]))
    [.text mark.glyph]

def cell (x y padding : Float32) (border : Color) (c : Layout.TextBox) : List Element :=
  .leaf "rect"
    (place x y ++ (extent c.frame.width c.frame.height ++
      [("fill", "none"), ("stroke", border.toHex), ("stroke-width", "1")])) ::
    lines (x + padding) (y + padding) c.text.height c.text

def tableRow (x y : Float32) (table : Layout.TableNode) (row : Layout.RowNode) : List Element :=
  let y := y + row.frame.y
  (row.fill.toList.map (filledRect x y row.frame 0)) ++
    row.cells.flatMap fun c => cell (x + c.frame.x) y table.cellPadding table.border c

def bodyNode (x y : Float32) : Layout.BodyNode → List Element
  | .heading _ frame text => lines (x + frame.x) (y + frame.y) frame.height text
  -- Zero is added where there is no bullet: it leaves no negative zero.
  | .line frame none text => lines (x + frame.x + 0) (y + frame.y) frame.height text
  | .line frame (some mark) text =>
    bullet (x + frame.x) (y + frame.y) mark text ::
      lines (x + frame.x + mark.indent) (y + frame.y) frame.height text
  | .table node => node.rows.flatMap (tableRow (x + node.frame.x) (y + node.frame.y) node)

def boxText (frame : Rect) (box : Layout.TextBox) : List Element :=
  lines (frame.x + box.frame.x) (frame.y + box.frame.y) box.frame.height box.text

def box : Layout.Box → List Element
  | .headerBar frame fill title => filledRect frame.x frame.y frame 0 fill :: boxText frame title
  | .coverTitle frame text => lines frame.x frame.y frame.height text
  | .card frame fill radius content children _ =>
    (fill.toList.map (filledRect frame.x frame.y frame radius)) ++
      children.flatMap (bodyNode (frame.x + content.x) (frame.y + content.y))
  | .footerBar frame fill caption =>
    filledRect frame.x frame.y frame 0 fill :: boxText frame caption

def picture (d : Layout.Descriptor) : Element :=
  .node "svg"
    (("xmlns", "http://www.w3.org/2000/svg") :: (extent d.width d.height ++
      [("viewBox", "0 0 " ++ num d.width ++ " " ++ num d.height)]))
    (.leaf "rect" [("width", "100%"), ("height", "100%"), ("fill", d.background.toHex)] ::
      d.children.flatMap box)

def render (d : Layout.Descriptor) : String := (picture d).render

end SlideDeck.Svg
