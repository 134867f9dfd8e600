import SlideDeck.Proofs.Layout.Nodes

/-! Tables as grids. Every row and every cell has its node. A cell starts where the columns before it
end, and a row where the rows above it end; such sums are taken from the left, starting from zero. -/

namespace SlideDeck.Layout

/-- Where an item starts that stands behind others of these lengths. -/
def offset (lengths : List Float32) (i : Nat) : Float32 := (lengths.take i).foldl (· + ·) 0

/-- The height that a row needs: that of its cells, which are all as high, or `bare` without cells. -/
def RowNode.innerHeight (bare : Float32) (n : RowNode) : Float32 :=
  match n.cells with
  | [] => bare
  | c :: _ => c.frame.height

/-! ## Columns -/

section Columns

variable (rows : List Row) (fontSize padding : Float32)

theorem length_widen (ws cs : List Float32) : (widen ws cs).length = ws.length := by
  fun_induction widen ws cs with
  | case1 w ws c cs ih => rw [List.length_cons, ih, List.length_cons]
  | case2 => rfl
  | case3 => rfl

theorem length_naturalWidths : (naturalWidths rows fontSize padding).length = columnCount rows := by
  have hfold (rs : List Row) (ws : List Float32) :
      (rs.foldl (fun ws r =>
        widen ws (r.cells.map (cellWidth fontSize padding r.isHeader))) ws).length =
        ws.length := by
    induction rs generalizing ws with
    | nil => rfl
    | cons r rs ih => rw [List.foldl_cons, ih, length_widen]
  rw [naturalWidths, hfold, List.length_replicate]

theorem length_columnWidths (width : Float32) :
    (columnWidths rows fontSize padding width).length = columnCount rows := by
  simp only [columnWidths]
  split
  · rw [List.length_replicate, length_naturalWidths]
  · rw [List.length_map, length_naturalWidths]

theorem columnCount_eq : columnCount rows = (rows.map fun r => r.cells.length).max?.getD 0 := by
  cases rows with
  | nil => rfl
  | cons r rows =>
    rw [columnCount, List.map_cons, List.foldl_cons, Nat.zero_max, List.max?_cons']
    rfl

variable {rows}

theorem length_cells_le {r : Row} (h : r ∈ rows) : r.cells.length ≤ columnCount rows := by
  rw [columnCount_eq]
  exact List.le_max?_getD_of_mem (List.mem_map_of_mem h)

end Columns

/-! ## Rows -/

section Rows

variable (theme : Theme) (style : LayoutStyle) (form : TableForm)

theorem getElem?_placeCells (height x : Float32) (texts : List (Float32 × TextNode)) (j : Nat) :
    (placeCells height x texts)[j]? = texts[j]?.map fun t =>
      ⟨{ Rect.make (((texts.map Prod.fst).take j).foldl (· + ·) x) 0 t.1 0 with height }, t.2⟩ := by
  induction texts generalizing x j with
  | nil => rfl
  | cons t texts ih =>
    cases j with
    | zero => rfl
    | succ j => exact ih (x + t.1) j

theorem length_rowTexts (r : Row) : (rowTexts theme style form r).length = r.cells.length :=
  List.length_mapIdx

theorem map_fst_rowTexts {r : Row} (h : r.cells.length ≤ form.columns.length) :
    (rowTexts theme style form r).map Prod.fst = form.columns.take r.cells.length := by
  apply List.ext_getElem
  · rw [List.length_map, length_rowTexts, List.length_take, Nat.min_eq_left h]
  · intro i hi _
    have hcolumn : i < form.columns.length := by
      refine Nat.lt_of_lt_of_le ?_ h
      simpa [rowTexts] using hi
    simp [rowTexts, hcolumn]

/-- The height that the cells of a row take, before it is clamped. -/
def fullHeight (r : Row) : Float32 :=
  rowHeight style form ((rowTexts theme style form r).map Prod.snd)

def rowNode (width y : Float32) (r : Row) : RowNode :=
  ⟨.make 0 y width (fullHeight theme style form r), r.isHeader,
    if r.isHeader then some theme.colors.primary else none,
    placeCells (fullHeight theme style form r) 0 (rowTexts theme style form r)⟩

theorem getElem?_placeRows (width y : Float32) (rows : List Row) (i : Nat) :
    (placeRows theme style form width y rows).1[i]? = rows[i]?.map
      (rowNode theme style form width
        (((rows.map (fullHeight theme style form)).take i).foldl (· + ·) y)) := by
  induction rows generalizing y i with
  | nil => rfl
  | cons r rows ih =>
    cases i with
    | zero => rfl
    | succ i => exact ih (y + fullHeight theme style form r) i

theorem stop_placeRows (width y : Float32) (rows : List Row) :
    (placeRows theme style form width y rows).2 =
      (rows.map (fullHeight theme style form)).foldl (· + ·) y := by
  induction rows generalizing y with
  | nil => rfl
  | cons r rows ih => exact ih (y + fullHeight theme style form r)

variable (width y : Float32) (r : Row)

theorem runs_rowNode :
    (rowNode theme style form width y r).cells.map (fun c => c.text.runs) = r.cells.map Cell.runs := by
  rw [← map_rowTexts theme style form r (f := TextNode.runs) (g := Cell.runs) fun _ _ => rfl,
    ← map_text_placeCells (fullHeight theme style form r) 0, List.map_map]
  rfl

theorem innerHeight_rowNode :
    (rowNode theme style form width y r).innerHeight
        (form.fontSize * style.lineHeight + 2 * form.padding) = fullHeight theme style form r := by
  unfold RowNode.innerHeight rowNode fullHeight
  cases rowTexts theme style form r with
  | nil => rfl
  | cons t texts => rfl

theorem getElem?_cells_rowNode (h : r.cells.length ≤ form.columns.length) {j : Nat} {c : TextBox}
    (hc : (rowNode theme style form width y r).cells[j]? = some c) :
    (∃ w, form.columns[j]? = some w ∧ c.frame.width = larger w 0) ∧
      c.frame.x = offset form.columns j ∧ c.frame.height = fullHeight theme style form r := by
  have hwidths := map_fst_rowTexts theme style form h
  rw [rowNode, getElem?_placeCells, hwidths] at hc
  obtain ⟨t, ht, rfl⟩ := Option.map_eq_some_iff.1 hc
  have hj : j < r.cells.length := by
    rw [← length_rowTexts theme style form r]
    exact (List.getElem?_eq_some_iff.1 ht).1
  have hbefore : (form.columns.take r.cells.length).take j = form.columns.take j := by
    rw [List.take_take, Nat.min_eq_left hj.le]
  have hcolumn : form.columns[j]? = some t.1 := by
    rw [← List.getElem?_take_of_lt hj, ← hwidths, List.getElem?_map, ht, Option.map_some]
  refine ⟨⟨t.1, hcolumn, rfl⟩, ?_, rfl⟩
  rw [offset, ← hbefore]
  rfl

theorem map_placeRows {β : Type} {f : RowNode → β} {g : Row → β}
    (h : ∀ y r, f (rowNode theme style form width y r) = g r) (rows : List Row) :
    (placeRows theme style form width y rows).1.map f = rows.map g := by
  refine List.ext_getElem? fun i => ?_
  rw [List.getElem?_map, getElem?_placeRows, Option.map_map, List.getElem?_map]
  exact congrArg (rows[i]?.map ·) (funext (h _))

end Rows

def tableForm (style : LayoutStyle) (bodySize width : Float32) (rows : List Row) : TableForm :=
  let fontSize := bodySize * style.tableFontScale
  let padding := fontSize * style.tableCellPadding
  ⟨fontSize, padding, columnWidths rows fontSize padding width⟩

/-- A table has a node for every row and for every cell, with the runs and the kind of the row, and as
many columns as its longest row has cells. A cell is as wide as its column and starts where the
columns before it end. All cells of a row are equally high, a row without cells is one line high, and
a row starts where the rows above it end; only the frames themselves are clamped. -/
theorem table_is_grid (theme : Theme) (style : LayoutStyle) (bodySize y width : Float32)
    (rows : List Row) :
    let fontSize := bodySize * style.tableFontScale
    let padding := fontSize * style.tableCellPadding
    let bare := fontSize * style.lineHeight + 2 * padding
    let t := layTable theme style bodySize y width rows
    let heights := t.rows.map (RowNode.innerHeight bare)
    (t.rows.map fun n => (n.isHeader, n.cells.map fun c => c.text.runs)) =
        (rows.map fun r => (r.isHeader, r.cells.map Cell.runs)) ∧
      t.columnWidths.length = (rows.map fun r => r.cells.length).max?.getD 0 ∧
      (∀ r ∈ rows, r.cells.length ≤ t.columnWidths.length) ∧
      (naturalWidths rows fontSize padding).length = t.columnWidths.length ∧
      (∀ i n, t.rows[i]? = some n →
        n.frame.y = offset heights i ∧ n.frame.height = larger (n.innerHeight bare) 0 ∧
          ∀ j c, n.cells[j]? = some c →
            (∃ w, t.columnWidths[j]? = some w ∧ c.frame.width = larger w 0) ∧
              c.frame.x = offset t.columnWidths j ∧ c.frame.height = n.innerHeight bare) ∧
      t.frame.height = larger (heights.foldl (· + ·) 0) 0 := by
  intro fontSize padding bare t heights
  let form := tableForm style bodySize width rows
  have hcontents : (t.rows.map fun n => (n.isHeader, n.cells.map fun c => c.text.runs)) =
      rows.map fun r => (r.isHeader, r.cells.map Cell.runs) :=
    map_placeRows theme style form width 0
      (fun y r => congrArg (r.isHeader, ·) (runs_rowNode theme style form width y r)) rows
  have hheights : heights = rows.map (fullHeight theme style form) :=
    map_placeRows theme style form width 0 (innerHeight_rowNode theme style form width) rows
  have hcolumns : t.columnWidths.length = columnCount rows := length_columnWidths ..
  have hcells : ∀ r ∈ rows, r.cells.length ≤ t.columnWidths.length := fun r hr => by
    rw [hcolumns]
    exact length_cells_le hr
  refine ⟨hcontents, ?_, hcells, ?_, fun i n hn => ?_, ?_⟩
  · rw [hcolumns, columnCount_eq]
  · rw [hcolumns, length_naturalWidths]
  · have hnode : t.rows[i]? = rows[i]?.map
        (rowNode theme style form width (offset (rows.map (fullHeight theme style form)) i)) :=
      getElem?_placeRows theme style form width 0 rows i
    rw [hnode] at hn
    obtain ⟨r, hr, rfl⟩ := Option.map_eq_some_iff.1 hn
    have hinner : (rowNode theme style form width
        (offset (rows.map (fullHeight theme style form)) i) r).innerHeight bare =
          fullHeight theme style form r := innerHeight_rowNode theme style form width _ r
    rw [hheights, hinner]
    exact ⟨rfl, rfl, fun j c hc =>
      getElem?_cells_rowNode theme style form width _ r (hcells r (List.mem_of_getElem? hr)) hc⟩
  · have hstop : t.frame.height = larger (placeRows theme style form width 0 rows).2 0 := rfl
    rw [hstop, stop_placeRows, hheights]

/-- A table with a full row, a row without cells and a short row. -/
theorem ragged_table_is_grid :
    let rows : List Row := [⟨[⟨[.plain "a"]⟩, ⟨[.strong "b"]⟩], true⟩, ⟨[], false⟩, ⟨[⟨[]⟩], false⟩]
    let t := layTable .professionalCard .default 20 10 400 rows
    let fontSize : Float32 := 20 * LayoutStyle.default.tableFontScale
    let padding := fontSize * LayoutStyle.default.tableCellPadding
    let bare := fontSize * LayoutStyle.default.lineHeight + 2 * padding
    t.columnWidths.length = 2 ∧ ∃ n m k c d, t.rows = [n, m, k] ∧ n.cells = [c, d] ∧ m.cells = [] ∧
      d.frame.x = offset t.columnWidths 1 ∧ c.frame.height = d.frame.height ∧
        k.frame.y = 0 + d.frame.height + bare := by
  intro rows t fontSize padding bare
  obtain ⟨hrows, hcolumns, -, -, hnodes, -⟩ := table_is_grid .professionalCard .default 20 10 400 rows
  change t.rows.map _ = _ at hrows
  obtain ⟨n, m, k, ht⟩ : ∃ n m k, t.rows = [n, m, k] :=
    List.length_eq_three.1 (by simpa [rows] using congrArg List.length hrows)
  rw [ht] at hrows
  simp only [rows, List.map_cons, List.map_nil, List.cons.injEq, Prod.mk.injEq, List.map_eq_cons_iff,
    List.map_eq_nil_iff] at hrows
  obtain ⟨⟨-, c, _, hn, -, d, _, rfl, -, rfl⟩, ⟨-, hm⟩, -⟩ := hrows
  obtain ⟨-, -, hcells⟩ := hnodes 0 n (congrArg (·[0]?) ht)
  obtain ⟨-, -, hc⟩ := hcells 0 c (congrArg (·[0]?) hn)
  obtain ⟨-, hx, hd⟩ := hcells 1 d (congrArg (·[1]?) hn)
  obtain ⟨hy, -⟩ := hnodes 2 k (congrArg (·[2]?) ht)
  change k.frame.y = offset (t.rows.map (RowNode.innerHeight bare)) 2 at hy
  have hfirst : n.innerHeight bare = d.frame.height := hd.symm
  have hsecond : m.innerHeight bare = bare := by rw [RowNode.innerHeight, hm]
  rw [ht, List.map_cons, List.map_cons, hfirst, hsecond] at hy
  exact ⟨hcolumns, n, m, k, c, d, ht, hn, hm, hx, hc.trans hd.symm, hy⟩

end SlideDeck.Layout
