import SlideDeck.Layout.Descriptor
import SlideDeck.Layout.Wrap

/-! Text laid out in lines of one font. -/

namespace SlideDeck.Layout

structure TextForm where
  font : Font
  color : Color
  limit : Float32
  /-- The height of a line, in em. -/
  lineHeight : Float32
  wrap : Bool
  align : Align

def layText (form : TextForm) (runs : List Run) : TextNode :=
  let lines := if form.wrap then wrap runs form.font.size form.font.bold form.limit else [runs]
  let advance := form.font.size * form.lineHeight
  { runs := runs
    lines := lines
    font := form.font
    color := form.color
    lineHeight := advance
    align := form.align
    width := largest (lines.map fun l => runsWidth l form.font.size form.font.bold)
    height := (max lines.length 1).toFloat32 * advance }

end SlideDeck.Layout
