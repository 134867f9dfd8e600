import SlideDeck.Markup.Bold
import SlideDeck.Text.Blank

/-! Tables: consecutive lines that start with a pipe. A line of dashes separates and is no
row; as the second line it makes the first a header row. -/

namespace SlideDeck.Markup

def stripPipes (line : List Char) : List Char :=
  let inner := match line with
    | '|' :: rest => rest
    | _ => line
  if inner.getLast? = some '|' then inner.dropLast else inner

def cells (line : String) : List String :=
  ((stripPipes line.toList).splitOn '|').map fun cell => .ofList (Text.trim cell)

/-- A cell of dashes, with at most one colon before and one after them. -/
def isDashes (cell : String) : Bool :=
  let marks := match cell.toList with
    | ':' :: rest => rest
    | all => all
  let dashes := if marks.getLast? = some ':' then marks.dropLast else marks
  !dashes.isEmpty && dashes.all (· == '-')

def isSeparator (line : String) : Bool := (cells line).all isDashes

def rowOf (line : String) : Row := ⟨(cells line).map fun cell => ⟨runs cell⟩, false⟩

def markHeader : List Row → List Row
  | first :: rest => { first with isHeader := true } :: rest
  | [] => []

def rowsFrom (index : Nat) (above : List Row) : List String → List Row
  | [] => above.reverse
  | line :: rest =>
    if isSeparator line then
      let above := if index == 1 then (markHeader above.reverse).reverse else above
      rowsFrom (index + 1) above rest
    else rowsFrom (index + 1) (rowOf line :: above) rest

def table (lines : List String) : Block := .table (rowsFrom 0 [] lines)

end SlideDeck.Markup
