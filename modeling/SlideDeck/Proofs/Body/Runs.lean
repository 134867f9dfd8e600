import SlideDeck.Proofs.Body.Lines

/-! Where the runs of a body stand: inside their cells, those inside their lines. The bold spans of
the body are the places of the bold runs that have text. -/

namespace SlideDeck

def Cell.text (c : Cell) : String := plainText c.runs

def Block.runs : Block → List Run
  | .heading _ runs => runs
  | .text runs _ => runs
  | .table rows => rows.flatMap fun r => r.cells.flatMap Cell.runs

def Slide.runs (s : Slide) : List Run := .plain s.displayTitle :: s.blocks.flatMap Block.runs

def Run.isStrong (r : Run) : Bool := r.bold && !r.text.isEmpty

def boldTexts (blocks : List Block) : List String :=
  ((blocks.flatMap Block.runs).filter Run.isStrong).map Run.text

theorem plainText_eq_intercalate (runs : List Run) :
    plainText runs = "".intercalate (runs.map Run.text) := by
  rw [plainText]
  induction runs with
  | nil => simp
  | cons r rs ih => cases rs <;> simp_all

namespace Body

open Text (place units)

def placeRuns (pos : Nat) (cells : List Cell) : List (Run × Span) :=
  (place Cell.text cellBar pos cells).flatMap fun (c, span) =>
    place Run.text "" span.start c.runs

structure PlacedRun where
  kind : LineKind
  run : Run
  span : Span

def placedRuns (blocks : List Block) : List PlacedRun :=
  (place Source.text "\n" 0 (sources blocks)).flatMap fun (l, span) =>
    (placeRuns span.start l.cells).map fun (r, span) => ⟨l.kind, r, span⟩

theorem mem_placedRuns {blocks : List Block} {p : PlacedRun} :
    p ∈ placedRuns blocks ↔
      ∃ l span, (l, span) ∈ place Source.text "\n" 0 (sources blocks) ∧ p.kind = l.kind ∧
        (p.run, p.span) ∈ placeRuns span.start l.cells := by
  simp only [placedRuns, List.mem_flatMap, List.mem_map, Prod.exists]
  constructor
  · rintro ⟨l, span, hl, r, s, hr, rfl⟩
    exact ⟨l, span, hl, rfl, hr⟩
  · rintro ⟨l, span, hl, hkind, hr⟩
    refine ⟨l, span, hl, p.run, p.span, hr, ?_⟩
    rw [← hkind]

section

variable {whole : String} {span : Span} {cells : List Cell}

theorem slice_cell (h : span.slice whole = some (rowText cells)) {c : Cell} {inner : Span}
    (hc : (c, inner) ∈ place Cell.text cellBar span.start cells) :
    inner.slice whole = some ("".intercalate (c.runs.map Run.text)) := by
  have hrow : span.slice whole = some (cellBar.intercalate (cells.map Cell.text)) := h
  have hcell : inner.slice whole = some c.text := Text.slice_of_place hrow hc
  rwa [Cell.text, plainText_eq_intercalate] at hcell

theorem slice_of_mem_placeRuns (h : span.slice whole = some (rowText cells)) {r : Run}
    {inner : Span} (hr : (r, inner) ∈ placeRuns span.start cells) :
    inner.slice whole = some r.text := by
  obtain ⟨⟨c, cell⟩, hc, hr⟩ := List.mem_flatMap.1 hr
  exact Text.slice_of_place (slice_cell h hc) hr

theorem ordered_placeRuns (h : span.slice whole = some (rowText cells)) :
    Span.Ordered span.start span.stop ((placeRuns span.start cells).map Prod.snd) := by
  rw [placeRuns, List.map_flatMap]
  refine (Text.ordered_place_of_slice h).flatMap fun ⟨c, inner⟩ hc => ?_
  exact Text.ordered_place_of_slice (slice_cell h hc)

theorem covers_of_placeRuns (h : span.slice whole = some (rowText cells)) {r : Run} {inner : Span}
    (hr : (r, inner) ∈ placeRuns span.start cells) {unit : Nat}
    (hcover : inner.covers unit = true) : span.covers unit = true :=
  (ordered_placeRuns h).covers_of_mem (List.mem_map_of_mem hr) hcover

end

theorem slice_placedRun {blocks : List Block} {p : PlacedRun} (h : p ∈ placedRuns blocks) :
    p.span.slice (ofBlocks blocks).text = some p.run.text := by
  obtain ⟨l, span, hl, -, hr⟩ := mem_placedRuns.1 h
  exact slice_of_mem_placeRuns (slice_source hl) hr

theorem ordered_placedRuns (blocks : List Block) :
    Span.Ordered 0 (units (ofBlocks blocks).text) ((placedRuns blocks).map PlacedRun.span) := by
  have h := Text.ordered_place Source.text "\n" 0 (sources blocks)
  rw [Nat.zero_add, ← text_ofBlocks] at h
  rw [placedRuns, List.map_flatMap]
  refine h.flatMap fun ⟨l, span⟩ hl => ?_
  simpa [Function.comp_def] using ordered_placeRuns (slice_source hl)

theorem mem_lines_of_source {blocks : List Block} {l : Source} {span : Span}
    (h : (l, span) ∈ place Source.text "\n" 0 (sources blocks)) :
    ⟨l.kind, span, rowBold span.start l.cells⟩ ∈ (ofBlocks blocks).lines := by
  rw [lines_ofBlocks]
  exact List.mem_map_of_mem h

theorem exists_line_covers {blocks : List Block} {p : PlacedRun} (hp : p ∈ placedRuns blocks)
    {unit : Nat} (hcover : p.span.covers unit = true) :
    ∃ l ∈ (ofBlocks blocks).lines, l.kind = p.kind ∧ l.span.covers unit = true := by
  obtain ⟨l, span, hl, hkind, hr⟩ := mem_placedRuns.1 hp
  exact ⟨_, mem_lines_of_source hl, hkind.symm, covers_of_placeRuns (slice_source hl) hr hcover⟩

theorem map_fst_placeRuns (pos : Nat) (cells : List Cell) :
    (placeRuns pos cells).map Prod.fst = cells.flatMap Cell.runs := by
  rw [placeRuns, List.map_flatMap]
  simp only [Text.map_fst_place]
  rw [← List.flatMap_map Prod.fst Cell.runs, Text.map_fst_place]

theorem map_placedRuns {β : Type} (f : LineKind → Run → β) (blocks : List Block) :
    ((placedRuns blocks).map fun p => f p.kind p.run) =
      (sources blocks).flatMap fun l => (l.cells.flatMap Cell.runs).map (f l.kind) := by
  have hcells (l : Source) (span : Span) :
      ((placeRuns span.start l.cells).map fun (r, span) => (⟨l.kind, r, span⟩ : PlacedRun)).map
        (fun p => f p.kind p.run) = (l.cells.flatMap Cell.runs).map (f l.kind) := by
    rw [List.map_map, ← map_fst_placeRuns span.start, List.map_map]
    rfl
  rw [placedRuns, List.map_flatMap]
  simp only [hcells]
  rw [← List.flatMap_map Prod.fst fun l : Source => (l.cells.flatMap Cell.runs).map (f l.kind),
    Text.map_fst_place]

theorem map_run_placedRuns (blocks : List Block) :
    (placedRuns blocks).map PlacedRun.run = blocks.flatMap Block.runs := by
  have hblock (b : Block) :
      (sourcesOf b).flatMap (fun l => l.cells.flatMap Cell.runs) = b.runs := by
    cases b <;> simp [sourcesOf, Block.runs, List.flatMap_map]
  rw [map_placedRuns fun _ r => r, sources, List.flatMap_assoc]
  simp only [List.map_id', hblock]

theorem boldSpans_eq (pos : Nat) (runs : List Run) :
    boldSpans pos runs =
      ((place Run.text "" pos runs).filter fun (r, _) => r.isStrong).map Prod.snd := by
  induction runs generalizing pos with
  | nil => rfl
  | cons r rs ih =>
    simp only [boldSpans, place, Text.units_empty, Nat.add_zero, ih]
    split
    next h => rw [List.filter_cons_of_pos (by exact h)]; rfl
    next h => rw [List.filter_cons_of_neg (by exact h)]

theorem rowBold_eq (pos : Nat) (cells : List Cell) :
    rowBold pos cells = ((placeRuns pos cells).filter fun (r, _) => r.isStrong).map Prod.snd := by
  induction cells generalizing pos with
  | nil => rfl
  | cons c cs ih => simp [rowBold, placeRuns, place, boldSpans_eq, ih, Cell.text]

theorem bold_ofBlocks (blocks : List Block) :
    (ofBlocks blocks).bold =
      ((placedRuns blocks).filter fun p => p.run.isStrong).map PlacedRun.span := by
  simp only [bold, lines_ofBlocks, placedRuns, List.flatMap_map, List.filter_flatMap,
    List.map_flatMap, rowBold_eq, List.filter_map, List.map_map]
  rfl

theorem any_bold_covers {blocks : List Block} {p : PlacedRun} (hp : p ∈ placedRuns blocks)
    {unit : Nat} (hcover : p.span.covers unit = true) :
    (ofBlocks blocks).bold.any (·.covers unit) = p.run.isStrong := by
  rw [bold_ofBlocks, List.any_map, List.any_filter]
  exact (ordered_placedRuns blocks).any_covers hp hcover fun p => p.run.isStrong

theorem ordered_bold (blocks : List Block) :
    Span.Ordered 0 (units (ofBlocks blocks).text) (ofBlocks blocks).bold := by
  rw [bold_ofBlocks]
  exact (ordered_placedRuns blocks).sublist (List.filter_sublist.map _)

theorem map_slice_bold (blocks : List Block) :
    (ofBlocks blocks).bold.map (·.slice (ofBlocks blocks).text) =
      (boldTexts blocks).map some := by
  have hslice : ∀ p ∈ (placedRuns blocks).filter fun p => p.run.isStrong,
      p.span.slice (ofBlocks blocks).text = some p.run.text := fun p hp =>
    slice_placedRun (List.mem_filter.1 hp).1
  rw [bold_ofBlocks, List.map_map, boldTexts, ← map_run_placedRuns, List.filter_map, List.map_map,
    List.map_map]
  exact List.map_congr_left hslice

theorem start_lt_stop_of_mem_bold {blocks : List Block} {span : Span}
    (h : span ∈ (ofBlocks blocks).bold) : span.start < span.stop := by
  rw [bold_ofBlocks] at h
  obtain ⟨p, hp, rfl⟩ := List.mem_map.1 h
  obtain ⟨hp, hstrong⟩ := List.mem_filter.1 hp
  obtain ⟨_, _, _, hstart, hstop⟩ := Span.slice_eq_some_iff.1 (slice_placedRun hp)
  have hne : units p.run.text ≠ 0 := by
    rw [Ne, Text.units_eq_zero_iff]
    simp [Run.isStrong] at hstrong
    exact hstrong.2
  omega

end Body

end SlideDeck
