import SlideDeck.Document
import SlideDeck.Geometry.Align
import SlideDeck.Geometry.Canvas
import SlideDeck.Geometry.Regions
import SlideDeck.Theme.Basic

/-! A slide after layout: boxes with their frames on the canvas, and text broken into lines. -/

namespace SlideDeck.Layout

structure Font where
  family : String
  size : Float32
  bold : Bool
deriving DecidableEq

def Font.ofStyle (style : TextStyle) (size : Float32) (bold : Bool) : Font :=
  ⟨style.fontFamily, size, bold⟩

/-- Text in its lines. `width` is that of the longest line. -/
structure TextNode where
  runs : List Run
  lines : List (List Run)
  font : Font
  color : Color
  lineHeight : Float32
  align : Align
  width : Float32
  height : Float32
deriving DecidableEq

/-- Text in a frame that is relative to the box around it. -/
structure TextBox where
  frame : Rect
  text : TextNode
deriving DecidableEq

structure BulletMark where
  glyph : String
  color : Color
  indent : Float32
deriving DecidableEq

/-- A row of a table; its frame is relative to the table, those of the cells to the row. -/
structure RowNode where
  frame : Rect
  isHeader : Bool
  fill : Option Color
  cells : List TextBox
deriving DecidableEq

structure TableNode where
  frame : Rect
  columnWidths : List Float32
  cellPadding : Float32
  border : Color
  rows : List RowNode
deriving DecidableEq

/-- A block in the card; its frame is relative to the content of the card. -/
inductive BodyNode
  | heading (level : UInt8) (frame : Rect) (text : TextNode)
  | line (frame : Rect) (bullet : Option BulletMark) (text : TextNode)
  | table (node : TableNode)
deriving DecidableEq

def BodyNode.frame : BodyNode → Rect
  | .heading _ frame _ => frame
  | .line frame _ _ => frame
  | .table node => node.frame

/-- A box on the canvas. The content of a card is relative to its frame. -/
inductive Box
  | headerBar (frame : Rect) (fill : Color) (title : TextBox)
  | coverTitle (frame : Rect) (text : TextNode)
  | card (frame : Rect) (fill : Option Color) (radius : Float32) (content : Rect)
      (children : List BodyNode) (overflow : Bool)
  | footerBar (frame : Rect) (fill : Color) (caption : TextBox)
deriving DecidableEq

structure Descriptor where
  width : Float32
  height : Float32
  ratio : Ratio
  mode : RenderMode
  theme : String
  category : Category
  background : Color
  children : List Box
deriving DecidableEq

namespace Descriptor

def hasHeader (d : Descriptor) : Bool :=
  d.children.any fun
    | .headerBar .. => true
    | _ => false

def hasFooter (d : Descriptor) : Bool :=
  d.children.any fun
    | .footerBar .. => true
    | _ => false

def body (d : Descriptor) : List BodyNode :=
  (d.children.findSome? fun
    | .card _ _ _ _ children _ => some children
    | _ => none).getD []

def title? (d : Descriptor) : Option TextNode :=
  d.children.findSome? fun
    | .headerBar _ _ title => some title.text
    | .coverTitle _ text => some text
    | _ => none

end Descriptor

end SlideDeck.Layout
