import SlideDeck.Proofs.Drawing.Looks

/-! The text of a body as a row of stretches: the runs, the bars between cells and the newlines
between lines. Each stretch is drawn in one style, which the line and the weight of the run decide. -/

namespace SlideDeck.Drawing

open Body (PlacedRun Source cellBar placedRuns sources)
open Text (place units)

section Intercalate

variable {α β : Type}

end Intercalate

structure Stretch where
  text : String
  style : StyleChange

namespace Stretch

def textOf (ps : List Stretch) : String := String.join (ps.map text)

end Stretch

namespace Sheet

variable (s : Sheet)

def cellStretches (kind : LineKind) (c : Cell) : List Stretch :=
  c.runs.map fun r => ⟨r.text, s.styleIn kind r.bold⟩

/-- The runs of a line, with bars between its cells. -/
def lineStretches (l : Source) : List Stretch :=
  [⟨cellBar, s.styleIn l.kind false⟩].intercalate (l.cells.map (s.cellStretches l.kind))

/-- The lines of a body, with newlines between them. -/
def stretches (blocks : List Block) : List Stretch :=
  [⟨"\n", s.plainStyle⟩].intercalate ((sources blocks).map s.lineStretches)

section Assembly

variable {blocks : List Block} {l : Source} {span : Span}

end Assembly

end Sheet

end SlideDeck.Drawing
