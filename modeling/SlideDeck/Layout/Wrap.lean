import SlideDeck.Layout.Width
import SlideDeck.Text.Blank

/-! Breaking text into lines. Each run is cut into words with the white space behind them, and a
line takes words as long as they fit. A word that is too wide has a line of its own. White space
at the ends of lines is dropped. -/

namespace SlideDeck.Layout

/-- The words of a run; `word` holds the characters of the current one, last one first. -/
def wordsFrom (bold : Bool) (word : List Char) : List Char → List Run
  | [] => if word.isEmpty then [] else [⟨.ofList word.reverse, bold⟩]
  | c :: cs =>
    if word.head?.any Text.isBlank && !Text.isBlank c then
      ⟨.ofList word.reverse, bold⟩ :: wordsFrom bold [c] cs
    else wordsFrom bold (c :: word) cs

def words (runs : List Run) : List Run := runs.flatMap fun r => wordsFrom r.bold [] r.text.toList

def pushWord (line : List Run) (word : Run) : List Run :=
  match line with
  | [] => [word]
  | [last] => if last.bold = word.bold then [⟨last.text ++ word.text, last.bold⟩] else [last, word]
  | r :: rest => r :: pushWord rest word

def trimLine : List Run → List Run
  | [] => []
  | r :: rest =>
    match trimLine rest with
    | [] =>
      let text := Text.trimEnd r.text.toList
      if text.isEmpty then [] else [⟨.ofList text, r.bold⟩]
    | rest' => r :: rest'

/-- The complete lines (last one first), the current one and its width. -/
structure Wrapping where
  done : List (List Run)
  line : List Run
  width : Float32

namespace Wrapping

def start : Wrapping := ⟨[], [], 0⟩

def endLine (w : Wrapping) : Wrapping := ⟨trimLine w.line :: w.done, [], 0⟩

/-- Puts a word on the current line. White space does not start a line. -/
def place (w : Wrapping) (size : Float32) (bold : Bool) (word : Run) : Wrapping :=
  let word := if w.line.isEmpty then ⟨.ofList (Text.trimStart word.text.toList), word.bold⟩ else word
  if word.text.isEmpty then w
  else
    { w with
      line := pushWord w.line word
      width := w.width + textWidth word.text.toList size (bold || word.bold) }

def step (size : Float32) (bold : Bool) (limit : Float32) (w : Wrapping) (word : Run) : Wrapping :=
  let bare := textWidth (Text.trimEnd word.text.toList) size (bold || word.bold)
  let w := if !w.line.isEmpty && limit < w.width + bare then w.endLine else w
  w.place size bold word

def finish (w : Wrapping) : List (List Run) :=
  let last := trimLine w.line
  if last.isEmpty && !w.done.isEmpty then w.done.reverse else (last :: w.done).reverse

end Wrapping

/-- The lines of a text that is `limit` wide; `bold` is the weight of the font. -/
def wrap (runs : List Run) (size : Float32) (bold : Bool) (limit : Float32) : List (List Run) :=
  ((words runs).foldl (Wrapping.step size bold limit) .start).finish

end SlideDeck.Layout
