import SlideDeck.Markup.Slide

/-! A deck as text: segments between delimiter lines, which read `---` without the white space
around it. Empty segments count, so that the segments and the slides have the same indices.
`segments` reads the text in one pass; `segmentsOfLines` says the same of its lines. -/

namespace SlideDeck.Markup

def isDelimiter (line : String) : Bool := Text.trimmed line == "---"

/-- The segments before the current one (last one first), the current one up to the line in
hand if it has a complete line, and the line in hand; characters stand last one first. -/
structure Cut where
  done : List String
  body : Option (List Char)
  line : List Char

namespace Cut

def start : Cut := ⟨[], none, []⟩

def whole (c : Cut) : List Char :=
  match c.body with
  | none => c.line
  | some body => c.line ++ '\n' :: body

def endLine (c : Cut) : Cut :=
  if isDelimiter (.ofList c.line.reverse) then
    ⟨.ofList (c.body.getD []).reverse :: c.done, none, []⟩
  else ⟨c.done, some c.whole, []⟩

def step (c : Cut) (x : Char) : Cut :=
  if x = '\n' then c.endLine else { c with line := x :: c.line }

def finish (c : Cut) : List String :=
  let c := c.endLine
  (.ofList (c.body.getD []).reverse :: c.done).reverse

end Cut

def segments (deck : String) : List String := (deck.toList.foldl Cut.step .start).finish

def segmentsOfLines (deck : String) : List String :=
  (Text.groups isDelimiter (Text.lines deck)).map Text.joinLines

def join (segments : List String) : String := "\n---\n".intercalate segments

def segmentCount (deck : String) : Nat := (segments deck).length

def document (deck : String) : Document := ⟨(segments deck).map slide⟩

end SlideDeck.Markup
