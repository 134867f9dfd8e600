import SlideDeck.Drawing.Board
import SlideDeck.Drawing.Presentation

/-! What is done to a board and what is done to a view of it. A view sees the properties of pages,
shapes and units through functions of its own; where these agree on what a change does to a
property, the view of a changed board is the changed view. -/

namespace SlideDeck.Drawing

variable {P S U P' S' U' : Type} {f : P → P'} {g : S → S'} {h : U → U'}

namespace Figure

end Figure

namespace Board

section Ids

variable (b : Board P S U)

end Ids

end Board

namespace Drawn

end Drawn

end SlideDeck.Drawing
