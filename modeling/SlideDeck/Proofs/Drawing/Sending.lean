import Mathlib.Data.List.Forall2
import SlideDeck.Proofs.Drawing.Board
import SlideDeck.Proofs.Drawing.Remote

/-! The requests for commands do to a service what the commands do to a board, as far as a service
knows of it: a shape with a fill is one without an outline there. -/

namespace SlideDeck.Drawing

namespace Drawn

section Steps

variable (b : Drawn)

end Steps

end Drawn

section Requests

inductive Request.IsFor : Op → Request → Prop
  | page {id : String} {index : Nat} : IsFor (.createSurface id index) (createSlide id index)
  | background {id : String} {color : Color} : IsFor (.setFill id .page color)
      (updatePage id { background := some color } [.background])
  | fill {id : String} {color : Color} : IsFor (.setFill id .shape color)
      (updateShape id { fill := some color, outline := some false } [.fill, .outline])
  | shape {id surface : String} {kind : ShapeKind} {frame : Rect} {align : Option Align} :
    IsFor (.createShape id surface kind frame align) (createShape id surface kind frame)
  | align {id surface : String} {kind : ShapeKind} {frame : Rect} {align : Align} :
    IsFor (.createShape id surface kind frame (some align))
      (updateShape id { align := some align } [.align])
  | text {id text : String} : IsFor (.insertText id text) (insertText id text 0)
  | style {id : String} {extent : Extent} {change : StyleChange} :
    IsFor (.styleText id extent change) (updateText id extent change change.fields)
  | paragraphs {id : String} {extent : Extent} {align : ParagraphAlign} :
    IsFor (.alignParagraphs id extent align)
      (updateParagraphs id extent { align := some align } [.align])
  | bullets {id preset : String} {span : Span} :
    IsFor (.addBullets id span preset) (createBullets id (.fixed span) preset)

theorem Request.IsFor.call {op : Op} {r : Request} (h : IsFor op r) :
    ∃ members, r.call.2 = ("objectId", .text op.objectId) :: members := by
  cases h <;> exact ⟨_, rfl⟩

end Requests

end SlideDeck.Drawing
