import SlideDeck.Markup.Heading
import SlideDeck.Markup.Table
import SlideDeck.Text.Lines

/-! The slide that a segment of a deck describes. The segment and then each of its lines is read
without the white space at its ends; consecutive lines that start with a pipe wait until the
table is complete. The first heading is the title, and every later one a block. -/

namespace SlideDeck.Markup

/-- What has been read: the title, the blocks (last one first) and the lines of a table that
is not complete (last one first). -/
structure Draft where
  title : Option String
  blocks : List Block
  pending : List String
deriving DecidableEq, Repr

namespace Draft

def start : Draft := ⟨none, [], []⟩

def flush (d : Draft) : Draft :=
  if d.pending.isEmpty then d
  else { d with blocks := table d.pending.reverse :: d.blocks, pending := [] }

def push (d : Draft) (b : Block) : Draft := { d with blocks := b :: d.blocks }

end Draft

def textBlock (line : String) : Block :=
  match line.toList with
  | '-' :: ' ' :: rest => .text (runs (.ofList rest)) true
  | _ => .text (runs line) false

def readLine (d : Draft) (line : String) : Draft :=
  if line.toList.head? = some '|' then { d with pending := line :: d.pending }
  else
    let d := d.flush
    if line.isEmpty then d
    else match Heading.read? line with
      | some h =>
        if d.title.isNone then { d with title := some h.text }
        else d.push (.heading h.level (runs h.text))
      | none => d.push (textBlock line)

def slideOf (lines : List String) : Slide :=
  let d := (lines.foldl readLine .start).flush
  ⟨d.title, d.blocks.reverse⟩

def slide (segment : String) : Slide :=
  slideOf ((Text.endedLines (Text.trimmed segment)).map Text.trimmed)

end SlideDeck.Markup
