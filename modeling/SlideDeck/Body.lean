import SlideDeck.Document
import SlideDeck.Text.Lines
import SlideDeck.Text.Units

/-! The body of a slide as one text: a line for every text, heading and table row, the cells of
a row with bars between them. Every line has its span in the text and the spans of its bold runs. -/

namespace SlideDeck

inductive LineKind
  | text (bullet : Bool)
  | heading (level : UInt8)
  | row (header : Bool)
deriving DecidableEq, Repr

def LineKind.isBullet : LineKind → Bool
  | .text bullet => bullet
  | _ => false

structure BodyLine where
  kind : LineKind
  span : Span
  bold : List Span
deriving DecidableEq, Repr

structure Body where
  text : String
  lines : List BodyLine
deriving DecidableEq, Repr

namespace Body

def boldSpans (pos : Nat) : List Run → List Span
  | [] => []
  | r :: rs =>
    let next := pos + Text.units r.text
    if r.bold && !r.text.isEmpty then ⟨pos, next⟩ :: boldSpans next rs else boldSpans next rs

def cellBar : String := " | "

def rowText (cells : List Cell) : String := cellBar.intercalate (cells.map fun c => plainText c.runs)

def rowBold (pos : Nat) : List Cell → List Span
  | [] => []
  | c :: cs =>
    boldSpans pos c.runs ++ rowBold (pos + Text.units (plainText c.runs) + Text.units cellBar) cs

/-- A line before its place in the body is known: spans start at the line. -/
structure Line where
  kind : LineKind
  text : String
  bold : List Span
deriving DecidableEq, Repr

def rowLine (r : Row) : Line := ⟨.row r.isHeader, rowText r.cells, rowBold 0 r.cells⟩

def linesOf : Block → List Line
  | .text runs bullet => [⟨.text bullet, plainText runs, boldSpans 0 runs⟩]
  | .heading level runs => [⟨.heading level, plainText runs, boldSpans 0 runs⟩]
  | .table rows => rows.map rowLine

def push (b : Body) (l : Line) : Body :=
  let before := if b.lines.isEmpty then b.text else b.text ++ "\n"
  let pos := Text.units before
  { text := before ++ l.text
    lines := b.lines ++ [⟨l.kind, ⟨pos, pos + Text.units l.text⟩, l.bold.map (·.shift pos)⟩] }

def empty : Body := ⟨"", []⟩

def ofBlocks (blocks : List Block) : Body := (blocks.flatMap linesOf).foldl push empty

def isEmpty (b : Body) : Bool := b.lines.isEmpty

def bold (b : Body) : List Span := b.lines.flatMap BodyLine.bold

/-- Bullet lines in a row share a span; `group` is the span that the line before belongs to. -/
def bulletSpansFrom (group : Option Span) : List BodyLine → List Span
  | [] => group.toList
  | l :: ls =>
    if l.kind.isBullet then
      match group with
      | some s => bulletSpansFrom (some ⟨s.start, l.span.stop⟩) ls
      | none => bulletSpansFrom (some l.span) ls
    else group.toList ++ bulletSpansFrom none ls

def bulletSpans (b : Body) : List Span := bulletSpansFrom none b.lines

end Body

end SlideDeck
