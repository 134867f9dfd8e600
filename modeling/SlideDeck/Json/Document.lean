import SlideDeck.Body
import SlideDeck.Json.Value

/-! Documents and bodies as JSON. A block says what it is under `type`. -/

namespace SlideDeck

def Run.toJson (r : Run) : Json := .record [("text", .text r.text), ("bold", .bool r.bold)]

def Cell.toJson (c : Cell) : Json := .record [("runs", .listOf Run.toJson c.runs)]

def Row.toJson (r : Row) : Json :=
  .record [("cells", .listOf Cell.toJson r.cells), ("isHeaderRow", .bool r.isHeader)]

def Block.toJson : Block → Json
  | .heading level runs =>
    .record
      [("type", .text "header"), ("level", .nat level.toNat), ("runs", .listOf Run.toJson runs)]
  | .text runs bullet =>
    .record [("type", .text "text"), ("runs", .listOf Run.toJson runs), ("isBullet", .bool bullet)]
  | .table rows => .record [("type", .text "table"), ("rows", .listOf Row.toJson rows)]

def Slide.toJson (s : Slide) : Json :=
  .record [("title", .opt .text s.title), ("blocks", .listOf Block.toJson s.blocks)]

def Document.toJson (d : Document) : Json := .record [("slides", .listOf Slide.toJson d.slides)]

def Span.toJson (s : Span) : Json := .record [("start", .nat s.start), ("end", .nat s.stop)]

def LineKind.toJson : LineKind → Json
  | .text bullet => .record [("kind", .text "text"), ("bullet", .bool bullet)]
  | .heading level => .record [("kind", .text "header"), ("level", .nat level.toNat)]
  | .row header => .record [("kind", .text "tableRow"), ("header", .bool header)]

def BodyLine.toJson (l : BodyLine) : Json :=
  .record
    [("kind", l.kind.toJson), ("range", l.span.toJson), ("bold", .listOf Span.toJson l.bold)]

def Body.toJson (b : Body) : Json :=
  .record [("text", .text b.text), ("lines", .listOf BodyLine.toJson b.lines)]

end SlideDeck
