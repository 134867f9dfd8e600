import SlideDeck.Layout.Slide
import SlideDeck.Proofs.Body.Runs

/-! What a slide says after layout: the texts in its boxes, the lines of its card, and the weight
in which every run is shown. Measures decide where text stands, but not what it says. -/

namespace SlideDeck.Layout

namespace TextNode

def text (t : TextNode) : String := plainText t.runs

def weights (t : TextNode) : List (Run × Bool) := t.runs.map fun r => (r, t.font.bold || r.bold)

end TextNode

def RowNode.texts (r : RowNode) : List TextNode := r.cells.map TextBox.text

namespace BodyNode

def texts : BodyNode → List TextNode
  | .heading _ _ text => [text]
  | .line _ _ text => [text]
  | .table node => node.rows.flatMap RowNode.texts

def lines : BodyNode → List String
  | .heading _ _ text => [text.text]
  | .line _ _ text => [text.text]
  | .table node => node.rows.map fun r => " | ".intercalate (r.texts.map TextNode.text)

end BodyNode

namespace Descriptor

def caption? (d : Descriptor) : Option TextNode :=
  d.children.findSome? fun
    | .footerBar _ _ caption => some caption.text
    | _ => none

def cardFill? (d : Descriptor) : Option Color :=
  d.children.findSome? fun
    | .card _ fill _ _ _ _ => fill
    | _ => none

def bodyText (d : Descriptor) : String := "\n".intercalate (d.body.flatMap BodyNode.lines)

def weights (d : Descriptor) : List (Run × Bool) :=
  (d.body.flatMap BodyNode.texts).flatMap TextNode.weights

end Descriptor

section Rows

variable (theme : Theme) (style : LayoutStyle) (form : TableForm)

theorem map_text_placeCells (height x : Float32) (texts : List (Float32 × TextNode)) :
    (placeCells height x texts).map TextBox.text = texts.map Prod.snd := by
  induction texts generalizing x with
  | nil => rfl
  | cons t texts ih => simp [placeCells, ih]

theorem map_texts_placeRows (width y : Float32) (rows : List Row) :
    (placeRows theme style form width y rows).1.map RowNode.texts =
      rows.map fun r => (rowTexts theme style form r).map Prod.snd := by
  induction rows generalizing y with
  | nil => rfl
  | cons r rows ih => simp [placeRows, RowNode.texts, map_text_placeCells, ih]

theorem map_rowTexts {β : Type} {f : TextNode → β} {g : Cell → β} (r : Row)
    (h : ∀ width c, f (cellText theme style form r.isHeader width c) = g c) :
    ((rowTexts theme style form r).map Prod.snd).map f = r.cells.map g := by
  -- The width of a column is looked up by its index, so the two rows are compared by index.
  apply List.ext_getElem
  · simp [rowTexts]
  · intro i _ _
    simp [rowTexts, h]

end Rows

section Blocks

variable (theme : Theme) (style : LayoutStyle) (bodySize gap width : Float32)

theorem rows_layTable (y : Float32) (rows : List Row) :
    ∃ form, (layTable theme style bodySize y width rows).rows.map RowNode.texts =
      rows.map fun r => (rowTexts theme style form r).map Prod.snd :=
  ⟨_, map_texts_placeRows ..⟩

theorem flatMap_texts_layTable {β : Type} {f : TextNode → List β} {g : Row → Cell → List β}
    (h : ∀ form r width c, f (cellText theme style form r.isHeader width c) = g r c) (y : Float32)
    (rows : List Row) :
    ((layTable theme style bodySize y width rows).rows.flatMap RowNode.texts).flatMap f =
      rows.flatMap fun r => r.cells.flatMap (g r) := by
  obtain ⟨form, hrows⟩ := rows_layTable theme style bodySize width y rows
  have hcells (r : Row) : ((rowTexts theme style form r).map Prod.snd).map f = r.cells.map (g r) :=
    map_rowTexts theme style form r (h form r)
  have htexts : (layTable theme style bodySize y width rows).rows.flatMap RowNode.texts =
      ((layTable theme style bodySize y width rows).rows.map RowNode.texts).flatten :=
    List.flatMap_def ..
  rw [htexts, hrows, ← List.flatMap_def, List.flatMap_assoc]
  refine List.flatMap_congr fun r _ => ?_
  rw [List.flatMap_def, hcells, ← List.flatMap_def]

theorem lines_layBlock (y : Float32) (b : Block) :
    (layBlock theme style bodySize y width b).lines = (Body.sourcesOf b).map Body.Source.text := by
  cases b with
  | heading level runs => simp [layBlock, BodyNode.lines, TextNode.text, layText, Body.sourcesOf,
      Body.Source.text, Body.rowText]
  | text runs bullet => simp [layBlock, BodyNode.lines, TextNode.text, layText, Body.sourcesOf,
      Body.Source.text, Body.rowText]
  | table rows =>
    obtain ⟨form, hrows⟩ := rows_layTable theme style bodySize width y rows
    have hcells (r : Row) : ((rowTexts theme style form r).map Prod.snd).map TextNode.text =
        r.cells.map fun c => plainText c.runs := map_rowTexts theme style form r fun _ _ => rfl
    have hlines : (layBlock theme style bodySize y width (.table rows)).lines =
        ((layTable theme style bodySize y width rows).rows.map RowNode.texts).map fun texts =>
          " | ".intercalate (texts.map TextNode.text) := by
      rw [List.map_map]
      rfl
    rw [hlines, hrows, List.map_map, Body.sourcesOf, List.map_map]
    refine List.map_congr_left fun r _ => ?_
    exact congrArg (String.intercalate " | ") (hcells r)

def plainBold : LineKind → Bool
  | .heading _ => true
  | .text _ => theme.typography.body.bold
  | .row header => header

theorem weights_layBlock (y : Float32) (b : Block) :
    (layBlock theme style bodySize y width b).texts.flatMap TextNode.weights =
      (Body.sourcesOf b).flatMap fun l =>
        (l.cells.flatMap Cell.runs).map fun r => (r, plainBold theme l.kind || r.bold) := by
  cases b with
  | heading level runs => simp [layBlock, BodyNode.texts, TextNode.weights, layText, Font.ofStyle,
      Body.sourcesOf, plainBold]
  | text runs bullet => simp [layBlock, BodyNode.texts, TextNode.weights, layText, Font.ofStyle,
      Body.sourcesOf, plainBold]
  | table rows =>
    have hcells := flatMap_texts_layTable theme style bodySize width (f := TextNode.weights)
      (g := fun r c => c.runs.map fun run => (run, r.isHeader || run.bold)) (fun _ _ _ _ => rfl) y rows
    rw [layBlock, BodyNode.texts, hcells]
    simp only [Body.sourcesOf, List.flatMap_map, List.map_flatMap]
    rfl

/-- A view of the nodes that does not see where they stand is a view of the blocks. -/
theorem flatMap_layBlocks {β : Type} {f : BodyNode → List β} {g : Block → List β}
    (h : ∀ y b, f (layBlock theme style bodySize y width b) = g b) (y : Float32)
    (blocks : List Block) :
    (layBlocks theme style bodySize gap width y blocks).1.flatMap f = blocks.flatMap g := by
  induction blocks generalizing y with
  | nil => rfl
  | cons b blocks ih => simp [layBlocks, h, ih]

theorem getElem?_layBlocks {blocks : List Block} {i : Nat} {b : Block} (h : blocks[i]? = some b)
    (y : Float32) :
    ∃ y', (layBlocks theme style bodySize gap width y blocks).1[i]? =
      some (layBlock theme style bodySize y' width b) := by
  induction blocks generalizing i y with
  | nil => simp at h
  | cons b' blocks ih =>
    cases i with
    | zero =>
      obtain rfl : b' = b := by simpa using h
      exact ⟨y, rfl⟩
    | succ i => exact ih (by simpa using h) _

theorem isSome_bulletMark? (bullet : Bool) :
    (bulletMark? theme style bodySize bullet).isSome = (bullet && !theme.isCover) := by
  unfold bulletMark?
  split
  next h => rw [h, Option.isSome_some]
  next h => rw [Bool.eq_false_iff.2 h, Option.isSome_none]

end Blocks

section Descriptors

variable (slide : Slide) (theme : Theme) (canvas : Canvas) (style : LayoutStyle)

theorem text_barText (text : TextStyle) (regions : Regions) (limit : Float32) (wrap : Bool)
    (content : String) : (barText text regions style limit wrap content).text = content := by
  simp [TextNode.text, plainText, barText, layText, Run.plain]

theorem title_describe :
    ∃ t, (describe slide theme canvas style).title? = some t ∧ t.text = slide.displayTitle := by
  unfold describe Descriptor.title?
  cases theme.isCover
  · exact ⟨_, rfl, text_barText ..⟩
  · exact ⟨_, rfl, text_barText ..⟩

theorem caption_describe :
    ∃ t, (describe slide theme canvas style).caption? = some t ∧ t.text = style.footerCaption := by
  unfold describe Descriptor.caption?
  cases theme.isCover
  · exact ⟨_, rfl, text_barText ..⟩
  · exact ⟨_, rfl, text_barText ..⟩

theorem hasHeader_describe :
    (describe slide theme canvas style).hasHeader = !theme.isCover := by
  unfold describe Descriptor.hasHeader
  cases theme.isCover <;> rfl

theorem isSome_cardFill_describe :
    (describe slide theme canvas style).cardFill?.isSome = !theme.isCover := by
  unfold describe Descriptor.cardFill? card
  cases theme.isCover <;> rfl

theorem body_describe :
    ∃ bodySize gap width, (describe slide theme canvas style).body =
      (layBlocks theme style bodySize gap width 0 slide.blocks).1 := by
  unfold describe Descriptor.body card
  cases theme.isCover
  · exact ⟨_, _, _, rfl⟩
  · exact ⟨_, _, _, rfl⟩

theorem bodyText_describe :
    (describe slide theme canvas style).bodyText = (Body.ofBlocks slide.blocks).text := by
  obtain ⟨bodySize, gap, width, hbody⟩ := body_describe slide theme canvas style
  rw [Descriptor.bodyText, hbody, Body.text_ofBlocks, Body.sources, List.map_flatMap,
    flatMap_layBlocks theme style bodySize gap width (lines_layBlock theme style bodySize width)]

theorem weights_describe :
    (describe slide theme canvas style).weights =
      (Body.placedRuns slide.blocks).map fun p =>
        (p.run, plainBold theme p.kind || p.run.bold) := by
  obtain ⟨bodySize, gap, width, hbody⟩ := body_describe slide theme canvas style
  rw [Descriptor.weights, hbody, List.flatMap_assoc,
    flatMap_layBlocks theme style bodySize gap width (weights_layBlock theme style bodySize width),
    Body.map_placedRuns fun kind r => (r, plainBold theme kind || r.bold), Body.sources,
    List.flatMap_assoc]

end Descriptors

end SlideDeck.Layout
