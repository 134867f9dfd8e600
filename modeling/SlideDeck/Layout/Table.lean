import SlideDeck.Layout.Text
import SlideDeck.Settings

/-! Tables. The columns share the width in proportion to their widest cells. A row may have fewer
cells than there are columns. -/

namespace SlideDeck.Layout

structure TableForm where
  fontSize : Float32
  padding : Float32
  columns : List Float32

def cellWidth (fontSize padding : Float32) (bold : Bool) (c : Cell) : Float32 :=
  runsWidth c.runs fontSize bold + 2 * padding

/-- Widens columns so that the cells fit; cells beyond the columns are left out. -/
def widen : List Float32 → List Float32 → List Float32
  | w :: ws, c :: cs => larger w c :: widen ws cs
  | ws, [] => ws
  | [], _ => []

def columnCount (rows : List Row) : Nat := (rows.map fun r => r.cells.length).foldl max 0

def naturalWidths (rows : List Row) (fontSize padding : Float32) : List Float32 :=
  rows.foldl (fun ws r => widen ws (r.cells.map (cellWidth fontSize padding r.isHeader)))
    (List.replicate (columnCount rows) 0)

def columnWidths (rows : List Row) (fontSize padding width : Float32) : List Float32 :=
  let natural := naturalWidths rows fontSize padding
  let sum := total natural
  if sum ≤ 0 then List.replicate natural.length (width / natural.length.toFloat32)
  else natural.map fun w => width * w / sum

def cellText (theme : Theme) (style : LayoutStyle) (form : TableForm) (header : Bool)
    (width : Float32) (c : Cell) : TextNode :=
  layText
    { font := .ofStyle theme.typography.body form.fontSize header
      color := if header then theme.typography.header.color else theme.colors.text
      limit := larger (width - 2 * form.padding) 1
      lineHeight := style.lineHeight
      wrap := style.wrapText
      align := .top } c.runs

def placeCells (height : Float32) (x : Float32) : List (Float32 × TextNode) → List TextBox
  | [] => []
  | (width, text) :: rest =>
    ⟨{ Rect.make x 0 width 0 with height := height }, text⟩ :: placeCells height (x + width) rest

def rowHeight (style : LayoutStyle) (form : TableForm) (texts : List TextNode) : Float32 :=
  if texts.isEmpty then form.fontSize * style.lineHeight + 2 * form.padding
  else largest (texts.map fun t => t.height + 2 * form.padding)

def rowTexts (theme : Theme) (style : LayoutStyle) (form : TableForm) (r : Row) :
    List (Float32 × TextNode) :=
  r.cells.mapIdx fun i c =>
    let width := form.columns.getD i 0
    (width, cellText theme style form r.isHeader width c)

def placeRows (theme : Theme) (style : LayoutStyle) (form : TableForm) (width : Float32)
    (y : Float32) : List Row → List RowNode × Float32
  | [] => ([], y)
  | r :: rest =>
    let texts := rowTexts theme style form r
    let height := rowHeight style form (texts.map Prod.snd)
    let (nodes, stop) := placeRows theme style form width (y + height) rest
    (⟨.make 0 y width height, r.isHeader, if r.isHeader then some theme.colors.primary else none,
      placeCells height 0 texts⟩ :: nodes, stop)

def layTable (theme : Theme) (style : LayoutStyle) (bodySize y width : Float32)
    (rows : List Row) : TableNode :=
  let fontSize := bodySize * style.tableFontScale
  let padding := fontSize * style.tableCellPadding
  let columns := columnWidths rows fontSize padding width
  let (nodes, height) := placeRows theme style ⟨fontSize, padding, columns⟩ width 0 rows
  ⟨.make 0 y width height, columns, padding, theme.colors.primary, nodes⟩

end SlideDeck.Layout
