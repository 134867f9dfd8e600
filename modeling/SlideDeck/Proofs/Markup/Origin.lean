import SlideDeck.Proofs.Body.Runs
import SlideDeck.Proofs.Markup.Segments
import SlideDeck.Proofs.Markup.WellFormed

/-! Where the characters of a document come from. Whatever a slide says stands in its deck, but for the
label of a slide without a title. -/

namespace SlideDeck.Markup

open Text (lines trimmed)

theorem Heading.subset_of_read? {l : String} {h : Heading} (hread : Heading.read? l = some h) :
    h.text.toList ⊆ l.toList := by
  obtain ⟨marks, c, rest, hl, -, -, rfl⟩ := Heading.eq_replicate_of_read? hread
  rw [hl, String.toList_ofList]
  intro x hx
  exact List.mem_append_right _ (List.mem_cons_of_mem c (Text.trim_subset rest hx))

section Blocks

variable {g : List String} {r : Run}

theorem runs_table (ls : List String) :
    (table ls).runs = (plainRows ls).flatMap fun row => row.cells.flatMap Cell.runs := by
  have hcells (rows : List Row) : (Block.table rows).runs =
      (rows.map Row.cells).flatMap fun cells => cells.flatMap Cell.runs := by
    rw [Block.runs, List.flatMap_map]
  rw [table, rowsFrom_zero, hcells]
  split
  · rw [map_cells_markHeader, List.flatMap_map]
  · rw [List.flatMap_map]

theorem subset_of_mem_table (hg : ∀ l ∈ g, '\n' ∉ l.toList) (hr : r ∈ (table g).runs) :
    ∃ l ∈ g, r.text.toList ⊆ l.toList := by
  rw [runs_table] at hr
  obtain ⟨row, hrow, hr⟩ := List.mem_flatMap.1 hr
  obtain ⟨l, hl, rfl⟩ := List.mem_map.1 hrow
  obtain ⟨cell, hcell, hr⟩ := List.mem_flatMap.1 hr
  obtain ⟨text, htext, rfl⟩ := List.mem_map.1 hcell
  have hmem : l ∈ g := (List.mem_filter.1 hl).1
  have hsubset := (subset_of_mem_cells htext).1
  have hrun := (text_of_mem_runs (fun h => hg l hmem (hsubset h)) hr).2.subset
  exact ⟨l, hmem, fun c hc => hsubset (hrun hc)⟩

theorem subset_of_blockOf? (hg : ∀ l ∈ g, '\n' ∉ l.toList) {b : Block} (hb : blockOf? g = some b)
    (hr : r ∈ b.runs) : ∃ l ∈ g, r.text.toList ⊆ l.toList := by
  rcases g with _ | ⟨l, ls⟩
  · cases hb
  have hone := hg l List.mem_cons_self
  have hline (text : String) (hsubset : text.toList ⊆ l.toList) (hrun : r ∈ runs text) :
      ∃ k ∈ l :: ls, r.text.toList ⊆ k.toList := by
    have hpart := (text_of_mem_runs (fun h => hone (hsubset h)) hrun).2.subset
    exact ⟨l, List.mem_cons_self, fun c hc => hsubset (hpart hc)⟩
  rw [blockOf?] at hb
  split at hb
  next =>
    obtain rfl := Option.some.inj hb
    exact subset_of_mem_table hg hr
  split at hb
  next => cases hb
  split at hb
  next heading hread =>
    obtain rfl := Option.some.inj hb
    exact hline heading.text (Heading.subset_of_read? hread) hr
  next =>
    obtain rfl := Option.some.inj hb
    refine hline _ ?_ hr
    split
    · rw [String.toList_ofList]
      exact List.drop_subset 2 l.toList
    · exact List.Subset.refl _

end Blocks

theorem subset_of_mem_reading {ls : List String} (h : ∀ l ∈ ls, '\n' ∉ l.toList) {r : Run}
    (hr : r ∈ (reading ls).runs) : r.text = "No Title" ∨ ∃ l ∈ ls, r.text.toList ⊆ l.toList := by
  rcases List.mem_cons.1 hr with rfl | hr
  · cases htitle : (reading ls).title with
    | none => exact .inl (by rw [Run.plain, Slide.displayTitle, htitle, Option.getD_none])
    | some title =>
      obtain ⟨heading, hfirst, rfl⟩ := Option.map_eq_some_iff.1 htitle
      obtain ⟨l, hl, hread⟩ := List.exists_of_findSome?_eq_some hfirst
      refine .inr ⟨l, hl, ?_⟩
      rw [Run.plain, Slide.displayTitle, htitle, Option.getD_some]
      exact Heading.subset_of_read? hread
  · obtain ⟨b, hb, hr⟩ := List.mem_flatMap.1 hr
    obtain ⟨g, hg, hblock⟩ := List.mem_filterMap.1 hb
    have hlines : ∀ l ∈ g, l ∈ ls := by
      intro l hl
      rw [← List.flatten_splitBy (fun a b => isPipe a && isPipe b) ls]
      exact List.mem_flatten_of_mem (List.mem_of_mem_eraseP hg) hl
    obtain ⟨l, hl, hsubset⟩ := subset_of_blockOf? (fun l hl => h l (hlines l hl)) hblock hr
    exact .inr ⟨l, hlines l hl, hsubset⟩

/-- A run of a slide is the label of slides without a title, or its characters are in the deck. -/
theorem subset_of_mem_document {deck : String} {s : Slide} (hs : s ∈ (document deck).slides) {r : Run}
    (hr : r ∈ s.runs) : r.text = "No Title" ∨ r.text.toList ⊆ deck.toList := by
  have hslides : (document deck).slides = (segments deck).map slide := by rw [document]
  rw [hslides] at hs
  obtain ⟨segment, hsegment, rfl⟩ := List.mem_map.1 hs
  rw [slide_eq_reading] at hr
  refine (subset_of_mem_reading (fun l hl => (isLine_of_mem_trimmedLines hl).oneLine) hr).imp_right ?_
  rintro ⟨l, hl, hsubset⟩
  obtain ⟨raw, hraw, rfl⟩ := List.mem_map.1 hl
  have hdeck : raw.toList ⊆ deck.toList := by
    rcases of_mem_lines_segment hsegment hraw with rfl | ⟨hmem, -⟩
    · exact List.nil_subset _
    · exact Text.subset_of_mem_lines hmem
  rw [Text.toList_trimmed] at hsubset
  exact fun c hc => hdeck (Text.trim_subset _ (hsubset hc))

end SlideDeck.Markup
