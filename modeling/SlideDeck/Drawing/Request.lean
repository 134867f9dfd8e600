import SlideDeck.Drawing.Op

/-! Requests to a slide service. An update names the properties that it changes in a field mask
and carries their values beside it. Every command is one request, and one more when a new shape
has an alignment. -/

namespace SlideDeck.Drawing

structure PageProperties where
  background : Option Color := none
deriving DecidableEq

inductive PageField
  | background
deriving DecidableEq, Repr

structure ShapeProperties where
  fill : Option Color := none
  /-- `some false` takes the outline away. -/
  outline : Option Bool := none
  align : Option Align := none
deriving DecidableEq

inductive ShapeField
  | fill
  | outline
  | align
deriving DecidableEq, Repr

structure ParagraphProperties where
  align : Option ParagraphAlign := none
deriving DecidableEq, Repr

inductive ParagraphField
  | align
deriving DecidableEq, Repr

inductive TextField
  | fontFamily
  | fontSize
  | bold
  | color
deriving DecidableEq, Repr

inductive Request
  | createSlide (id : String) (index : Nat)
  | updatePage (id : String) (properties : PageProperties) (fields : List PageField)
  | createShape (id page : String) (kind : ShapeKind) (frame : Rect)
  | updateShape (id : String) (properties : ShapeProperties) (fields : List ShapeField)
  | insertText (id text : String) (index : Nat)
  | updateText (id : String) (extent : Extent) (style : StyleChange) (fields : List TextField)
  | updateParagraphs (id : String) (extent : Extent) (style : ParagraphProperties)
      (fields : List ParagraphField)
  | createBullets (id : String) (extent : Extent) (preset : String)
deriving DecidableEq

def StyleChange.fields (c : StyleChange) : List TextField :=
  (if c.fontFamily.isSome then [.fontFamily] else []) ++
    ((if c.fontSize.isSome then [.fontSize] else []) ++
      ((if c.bold.isSome then [.bold] else []) ++ if c.color.isSome then [.color] else []))

namespace Request

/-- The requests that do what a command says. A shape that is filled loses its outline. -/
def ofOp : Op → List Request
  | .createSurface id index => [createSlide id index]
  | .setFill id .page color => [updatePage id { background := some color } [.background]]
  | .setFill id .shape color =>
    [updateShape id { fill := some color, outline := some false } [.fill, .outline]]
  | .createShape id surface kind frame align =>
    createShape id surface kind frame ::
      match align with
      | some align => [updateShape id { align := some align } [.align]]
      | none => []
  | .insertText id text => [insertText id text 0]
  | .styleText id extent change => [updateText id extent change change.fields]
  | .alignParagraphs id extent align =>
    [updateParagraphs id extent { align := some align } [.align]]
  | .addBullets id span preset => [createBullets id (.fixed span) preset]

def ofOps (ops : List Op) : List Request := ops.flatMap ofOp

end Request

end SlideDeck.Drawing
