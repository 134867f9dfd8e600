import SlideDeck.Body
import SlideDeck.Proofs.Text.Spans

/-! The lines of a body as cells that stand in a row. The body's text is the newline join of the
lines, and every line has the span of its own text. -/

namespace SlideDeck.Body

open Text (place units)

/-- What a line is made of. Outside tables it is a single cell. -/
structure Source where
  kind : LineKind
  cells : List Cell

namespace Source

def text (l : Source) : String := rowText l.cells

def line (l : Source) : Line := ⟨l.kind, l.text, rowBold 0 l.cells⟩

end Source

def sourcesOf : Block → List Source
  | .text runs bullet => [⟨.text bullet, [⟨runs⟩]⟩]
  | .heading level runs => [⟨.heading level, [⟨runs⟩]⟩]
  | .table rows => rows.map fun r => ⟨.row r.isHeader, r.cells⟩

def sources (blocks : List Block) : List Source := blocks.flatMap sourcesOf

theorem linesOf_eq (b : Block) : linesOf b = (sourcesOf b).map Source.line := by
  cases b with
  | text runs bullet => simp [linesOf, sourcesOf, Source.line, Source.text, rowText, rowBold]
  | heading level runs => simp [linesOf, sourcesOf, Source.line, Source.text, rowText, rowBold]
  | table rows => simp [linesOf, sourcesOf, Source.line, Source.text, rowLine, Function.comp_def]

theorem boldSpans_shift (pos n : Nat) (runs : List Run) :
    (boldSpans pos runs).map (·.shift n) = boldSpans (pos + n) runs := by
  induction runs generalizing pos with
  | nil => rfl
  | cons r rs ih =>
    have hnext : pos + units r.text + n = pos + n + units r.text := by omega
    simp only [boldSpans]
    split
    · rw [List.map_cons, ih, hnext, Span.shift, hnext]
    · rw [ih, hnext]

theorem rowBold_shift (pos n : Nat) (cells : List Cell) :
    (rowBold pos cells).map (·.shift n) = rowBold (pos + n) cells := by
  induction cells generalizing pos with
  | nil => rfl
  | cons c cs ih =>
    have hnext : pos + units (plainText c.runs) + units cellBar + n =
        pos + n + units (plainText c.runs) + units cellBar := by omega
    simp only [rowBold, List.map_append, boldSpans_shift, ih, hnext]

def Line.at (l : Line) (span : Span) : BodyLine :=
  ⟨l.kind, span, l.bold.map (·.shift span.start)⟩

theorem foldl_push {b : Body} (hb : b.lines ≠ []) (ls : List Line) :
    ls.foldl push b =
      ⟨"\n".intercalate (b.text :: ls.map Line.text),
        b.lines ++
          (place Line.text "\n" (units b.text + 1) ls).map fun (l, span) => l.at span⟩ := by
  -- The body so far is one more line to the induction: its text is the first piece of the join.
  induction ls generalizing b with
  | nil => simp [place]
  | cons l ls ih =>
    have hpush : push b l =
        ⟨b.text ++ "\n" ++ l.text, b.lines ++
          [l.at ⟨units b.text + 1, units b.text + 1 + units l.text⟩]⟩ := by
      have hunit : units "\n" = 1 := by decide
      simp [push, hb, hunit, Line.at]
    rw [List.foldl_cons, hpush, ih (by simp)]
    have hunit : units "\n" = 1 := by decide
    simp [place, hunit, Nat.add_assoc]

theorem foldl_push_empty (ls : List Line) :
    ls.foldl push empty =
      ⟨"\n".intercalate (ls.map Line.text),
        (place Line.text "\n" 0 ls).map fun (l, span) => l.at span⟩ := by
  cases ls with
  | nil => simp [place, empty]
  | cons l ls =>
    have hpush : push empty l = ⟨l.text, [l.at ⟨0, units l.text⟩]⟩ := by
      simp [push, empty, Line.at]
    rw [List.foldl_cons, hpush, foldl_push (by simp)]
    have hunit : units "\n" = 1 := by decide
    simp [place, hunit]

theorem ofBlocks_eq (blocks : List Block) :
    ofBlocks blocks =
      ⟨"\n".intercalate ((sources blocks).map Source.text),
        (place Source.text "\n" 0 (sources blocks)).map fun (l, span) =>
          ⟨l.kind, span, rowBold span.start l.cells⟩⟩ := by
  have hlines : blocks.flatMap linesOf = (sources blocks).map Source.line := by
    simp only [sources, List.map_flatMap, ← linesOf_eq]
  rw [ofBlocks, hlines, foldl_push_empty, Text.place_map]
  simp [Line.at, Source.line, rowBold_shift, Function.comp_def]

theorem text_ofBlocks (blocks : List Block) :
    (ofBlocks blocks).text = "\n".intercalate ((sources blocks).map Source.text) := by
  rw [ofBlocks_eq]

theorem lines_ofBlocks (blocks : List Block) :
    (ofBlocks blocks).lines =
      (place Source.text "\n" 0 (sources blocks)).map fun (l, span) =>
        ⟨l.kind, span, rowBold span.start l.cells⟩ := by
  rw [ofBlocks_eq]

theorem slice_source {blocks : List Block} {l : Source} {span : Span}
    (h : (l, span) ∈ place Source.text "\n" 0 (sources blocks)) :
    span.slice (ofBlocks blocks).text = some l.text := by
  rw [text_ofBlocks]
  exact Text.slice_of_mem_place_zero h

theorem slice_line {blocks : List Block} {l : BodyLine} (h : l ∈ (ofBlocks blocks).lines) :
    (l.span.slice (ofBlocks blocks).text).isSome = true := by
  rw [lines_ofBlocks] at h
  obtain ⟨⟨source, span⟩, hs, rfl⟩ := List.mem_map.1 h
  rw [slice_source hs, Option.isSome_some]

theorem ordered_lines (blocks : List Block) :
    Span.Ordered 0 (units (ofBlocks blocks).text)
      ((ofBlocks blocks).lines.map BodyLine.span) := by
  have h := Text.ordered_place Source.text "\n" 0 (sources blocks)
  rw [Nat.zero_add, ← text_ofBlocks] at h
  simpa [lines_ofBlocks, Function.comp_def] using h

def shownLines : Block → List (LineKind × String)
  | .text runs bullet => [(.text bullet, plainText runs)]
  | .heading level runs => [(.heading level, plainText runs)]
  | .table rows =>
    rows.map fun r => (.row r.isHeader, " | ".intercalate (r.cells.map fun c => plainText c.runs))

theorem shownLines_eq (b : Block) : shownLines b = (sourcesOf b).map fun l => (l.kind, l.text) := by
  cases b with
  | text runs bullet => simp [shownLines, sourcesOf, Source.text, rowText]
  | heading level runs => simp [shownLines, sourcesOf, Source.text, rowText]
  | table rows => simp [shownLines, sourcesOf, Source.text, rowText, cellBar, Function.comp_def]

theorem flatMap_shownLines (blocks : List Block) :
    blocks.flatMap shownLines = (sources blocks).map fun l => (l.kind, l.text) := by
  simp only [sources, List.map_flatMap, ← shownLines_eq]

theorem map_slice_lines (blocks : List Block) :
    ((ofBlocks blocks).lines.map fun l => (l.kind, l.span.slice (ofBlocks blocks).text)) =
      (sources blocks).map fun l => (l.kind, some l.text) := by
  have hplaced : (place Source.text "\n" 0 (sources blocks)).map Prod.fst = sources blocks :=
    Text.map_fst_place 0 _
  rw [lines_ofBlocks, List.map_map, ← hplaced, List.map_map, hplaced]
  refine List.map_congr_left fun p hp => ?_
  simp only [Function.comp_apply, slice_source hp]

/-- A body has its lines in the order of the blocks, a row of a table for a line. Together the spans
of the lines are the whole text but for a newline between each two. -/
theorem lines_fill_text (blocks : List Block) :
    let body := ofBlocks blocks
    let shown := blocks.flatMap shownLines
    (body.lines.map fun l => (l.kind, l.span.slice body.text)) =
        (shown.map fun (kind, text) => (kind, some text)) ∧
      (∀ l ∈ body.lines.head?, l.span.start = 0) ∧
      (body.lines.IsChain fun l m => m.span.start = l.span.stop + 1 ∧
        Span.slice ⟨l.span.stop, m.span.start⟩ body.text = some "\n") ∧
      (∀ l ∈ body.lines.getLast?, l.span.stop = units body.text) ∧
      body.text = "\n".intercalate (shown.map Prod.snd) := by
  intro body shown
  have hshown : shown = (sources blocks).map fun l => (l.kind, l.text) := flatMap_shownLines blocks
  have htext : body.text = "\n".intercalate ((sources blocks).map Source.text) := text_ofBlocks blocks
  have hlines : body.lines = (place Source.text "\n" 0 (sources blocks)).map fun (l, span) =>
      ⟨l.kind, span, rowBold span.start l.cells⟩ := lines_ofBlocks blocks
  have hunit : units "\n" = 1 := by decide
  refine ⟨?_, ?_, ?_, ?_, ?_⟩
  · rw [hshown, List.map_map]
    exact map_slice_lines blocks
  · intro l hl
    rw [hlines, List.head?_map] at hl
    obtain ⟨p, hp, rfl⟩ := Option.map_eq_some_iff.1 hl
    exact Text.start_of_head?_place hp
  · have hchain : (place Source.text "\n" 0 (sources blocks)).IsChain _ :=
      Text.isChain_place "" "" (sources blocks)
    rw [hlines, List.isChain_map, htext]
    simpa [hunit] using hchain
  · intro l hl
    rw [hlines, List.getLast?_map] at hl
    obtain ⟨p, hp, rfl⟩ := Option.map_eq_some_iff.1 hl
    change p.2.stop = units body.text
    rw [Text.stop_of_getLast?_place hp, htext, Nat.zero_add]
  · rw [htext, hshown, List.map_map]
    rfl

theorem getElem?_sources {blocks : List Block} {i j : Nat} {b : Block} (h : blocks[i]? = some b)
    {l : Source} (hl : (sourcesOf b)[j]? = some l) :
    (sources blocks)[(sources (blocks.take i)).length + j]? = some l := by
  obtain ⟨hi, rfl⟩ := List.getElem?_eq_some_iff.1 h
  obtain ⟨hj, -⟩ := List.getElem?_eq_some_iff.1 hl
  have hsplit : sources blocks =
      sources (blocks.take i) ++ (sourcesOf blocks[i] ++ sources (blocks.drop (i + 1))) := by
    rw [sources, sources, sources, ← List.flatMap_cons, ← List.drop_eq_getElem_cons hi,
      ← List.flatMap_append, List.take_append_drop]
  rw [hsplit, List.getElem?_append_right (Nat.le_add_right _ _), Nat.add_sub_cancel_left,
    List.getElem?_append_left hj, hl]

theorem getElem?_lines {blocks : List Block} {i j : Nat} {b : Block} (h : blocks[i]? = some b)
    {l : Source} (hl : (sourcesOf b)[j]? = some l) :
    ∃ line, (ofBlocks blocks).lines[((blocks.take i).flatMap linesOf).length + j]? = some line ∧
      line.kind = l.kind ∧ line.span.slice (ofBlocks blocks).text = some l.text := by
  have hlength : ((blocks.take i).flatMap linesOf).length = (sources (blocks.take i)).length := by
    simp only [sources, List.length_flatMap, linesOf_eq, List.length_map]
  have hplaced : ((place Source.text "\n" 0 (sources blocks)).map Prod.fst)[
      (sources (blocks.take i)).length + j]? = some l := by
    rw [Text.map_fst_place, getElem?_sources h hl]
  rw [List.getElem?_map] at hplaced
  obtain ⟨⟨source, span⟩, hat, rfl⟩ := Option.map_eq_some_iff.1 hplaced
  refine ⟨⟨source.kind, span, rowBold span.start source.cells⟩, ?_, rfl,
    slice_source (List.mem_of_getElem? hat)⟩
  rw [hlength, lines_ofBlocks, List.getElem?_map, hat]
  rfl

end SlideDeck.Body
