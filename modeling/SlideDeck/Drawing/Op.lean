import SlideDeck.Geometry.Align
import SlideDeck.Geometry.Regions
import SlideDeck.Text.Units
import SlideDeck.Theme.Basic

/-! Drawing commands for a presentation on the reference page. An object is named by the id that
it was created with, and a stretch of its text by a span of 16-bit units. -/

namespace SlideDeck.Drawing

inductive ShapeKind
  | rectangle
  | roundRectangle
  | textBox
deriving DecidableEq, Repr

inductive FillTarget
  | page
  | shape
deriving DecidableEq, Repr

inductive ParagraphAlign
  | start
deriving DecidableEq, Repr

inductive Extent
  | all
  | fixed (span : Span)
deriving DecidableEq, Repr

/-- A change of text style; what is not set stays as it is. -/
structure StyleChange where
  fontFamily : Option String := none
  fontSize : Option Float32 := none
  bold : Option Bool := none
  color : Option Color := none
deriving DecidableEq

namespace StyleChange

def embolden : StyleChange := { bold := some true }

def ofStyle (style : TextStyle) (size : Float32) : StyleChange where
  fontFamily := some style.fontFamily
  fontSize := some size
  bold := some style.bold
  color := some style.color

end StyleChange

inductive Op
  | createSurface (id : String) (index : Nat)
  | setFill (id : String) (target : FillTarget) (color : Color)
  | createShape (id surface : String) (kind : ShapeKind) (frame : Rect) (align : Option Align)
  | insertText (id text : String)
  | styleText (id : String) (extent : Extent) (change : StyleChange)
  | alignParagraphs (id : String) (extent : Extent) (align : ParagraphAlign)
  | addBullets (id : String) (span : Span) (preset : String)
deriving DecidableEq

namespace Op

def name : Op → String
  | .createSurface .. => "createSurface"
  | .setFill .. => "setFill"
  | .createShape .. => "createShape"
  | .insertText .. => "insertText"
  | .styleText .. => "applyTextStyle"
  | .alignParagraphs .. => "applyParagraphStyle"
  | .addBullets .. => "applyBulletStyle"

def objectId : Op → String
  | .createSurface id _ => id
  | .setFill id _ _ => id
  | .createShape id _ _ _ _ => id
  | .insertText id _ => id
  | .styleText id _ _ => id
  | .alignParagraphs id _ _ => id
  | .addBullets id _ _ => id

end Op

end SlideDeck.Drawing
