import SlideDeck.Proofs.Markup.Bold
import SlideDeck.Proofs.Markup.Stretches
import SlideDeck.Proofs.Markup.Table

/-! What every document satisfies that is read from a deck, whatever the deck holds. -/

namespace SlideDeck

open Text (isBlank trim trimmed)

structure Run.WellFormed (r : Run) : Prop where
  filled : r.text ≠ ""
  oneLine : '\n' ∉ r.text.toList

structure Row.WellFormed (row : Row) : Prop where
  cells : row.cells ≠ []
  runs : ∀ cell ∈ row.cells, ∀ r ∈ cell.runs, r.WellFormed ∧ '|' ∉ r.text.toList

inductive Block.WellFormed : Block → Prop
  | heading {level : UInt8} {runs : List Run} : 1 ≤ level.toNat → level.toNat ≤ 6 →
      (∀ r ∈ runs, r.WellFormed) → WellFormed (.heading level runs)
  | text {runs : List Run} {bullet : Bool} : (∀ r ∈ runs, r.WellFormed) →
      WellFormed (.text runs bullet)
  | table {rows : List Row} : (∀ row ∈ rows, row.WellFormed) →
      (∀ row ∈ rows.tail, row.isHeader = false) → WellFormed (.table rows)

structure IsTitle (t : String) : Prop where
  filled : t ≠ ""
  oneLine : '\n' ∉ t.toList
  first : ∀ c, t.toList.head? = some c → isBlank c = false
  last : ∀ c, t.toList.getLast? = some c → isBlank c = false

structure Slide.WellFormed (s : Slide) : Prop where
  title : ∀ t ∈ s.title, IsTitle t
  blocks : ∀ b ∈ s.blocks, b.WellFormed

def Document.WellFormed (d : Document) : Prop := ∀ s ∈ d.slides, s.WellFormed

namespace Markup

structure IsLine (l : String) : Prop where
  oneLine : '\n' ∉ l.toList
  last : ∀ c, l.toList.getLast? = some c → isBlank c = false

theorem isLine_of_mem_trimmedLines {segment l : String} (h : l ∈ trimmedLines segment) : IsLine l := by
  obtain ⟨raw, hraw, rfl⟩ := List.mem_map.1 h
  refine ⟨?_, fun _ => Text.getLast?_trimmed⟩
  rw [Text.toList_trimmed]
  exact fun hmem => Text.newline_not_mem_of_mem_lines hraw (Text.trim_subset _ hmem)

section Headings

variable {l : String} {h : Heading}

theorem IsLine.heading_title (hl : IsLine l) (hread : Heading.read? l = some h) : IsTitle h.text := by
  obtain ⟨marks, gap, hline, -, -, -, -, hfirst⟩ := (Heading.read?_eq_some_iff hl.last).1 hread
  have hsuffix : h.text.toList <:+ l.toList :=
    ⟨List.replicate marks '#' ++ gap, by rw [hline, List.append_assoc]⟩
  refine ⟨Heading.text_ne_empty hread hl.last, fun hmem => hl.oneLine (hsuffix.subset hmem), hfirst,
    fun c hc => hl.last c ?_⟩
  rw [hline, ← List.append_assoc, List.getLast?_append, hc]
  rfl

theorem IsLine.heading_level (hl : IsLine l) (hread : Heading.read? l = some h) :
    1 ≤ h.level.toNat ∧ h.level.toNat ≤ 6 := by
  obtain ⟨marks, gap, -, hmarks, hlevel, -⟩ := (Heading.read?_eq_some_iff hl.last).1 hread
  omega

end Headings

section Blocks

variable {l : String} {g : List String} {b : Block}

theorem wellFormed_of_mem_runs (hl : '\n' ∉ l.toList) {r : Run} (hr : r ∈ runs l) : r.WellFormed := by
  obtain ⟨hne, hpart⟩ := text_of_mem_runs hl hr
  exact ⟨hne, fun hmem => hl (hpart.subset hmem)⟩

theorem subset_of_mem_cells {cell : String} (h : cell ∈ cells l) :
    cell.toList ⊆ l.toList ∧ '|' ∉ cell.toList := by
  obtain ⟨piece, hpiece, rfl⟩ := List.mem_map.1 h
  rw [String.toList_ofList]
  constructor
  · obtain ⟨left, right, hl, -, -⟩ := exists_ends '|' l.toList
    intro c hc
    have hstrip : c ∈ stripPipes l.toList :=
      Text.subset_of_mem_splitOn hpiece (Text.trim_subset piece hc)
    rw [hl, ← stripPipes_eq]
    exact List.mem_append_right _ (List.mem_append_left _ hstrip)
  · exact fun hmem => Text.not_mem_of_mem_splitOn hpiece (Text.trim_subset piece hmem)

theorem wellFormed_rowOf (hl : '\n' ∉ l.toList) : (rowOf l).WellFormed := by
  refine ⟨by simpa [rowOf] using cells_ne_nil l, fun cell hcell r hr => ?_⟩
  obtain ⟨text, htext, rfl⟩ := List.mem_map.1 hcell
  obtain ⟨hsubset, hpipe⟩ := subset_of_mem_cells htext
  have hone : '\n' ∉ text.toList := fun hmem => hl (hsubset hmem)
  have hpart := (text_of_mem_runs hone hr).2
  exact ⟨wellFormed_of_mem_runs hone hr, fun hmem => hpipe (hpart.subset hmem)⟩

theorem wellFormed_table {ls : List String} (h : ∀ l ∈ ls, '\n' ∉ l.toList) :
    (table ls).WellFormed := by
  have hrows : ∀ row ∈ plainRows ls, row.WellFormed := by
    intro row hrow
    obtain ⟨l, hl, rfl⟩ := List.mem_map.1 hrow
    exact wellFormed_rowOf (h l (List.mem_filter.1 hl).1)
  have hplain : ∀ row ∈ plainRows ls, row.isHeader = false := fun _ => isHeader_of_mem_plainRows
  rw [table, rowsFrom_zero]
  split
  · cases hall : plainRows ls with
    | nil => exact .table (by simp [markHeader]) (by simp [markHeader])
    | cons first rest =>
      rw [hall] at hrows hplain
      obtain ⟨hfirst, hrest⟩ := List.forall_mem_cons.1 hrows
      refine .table (List.forall_mem_cons.2 ⟨⟨hfirst.cells, hfirst.runs⟩, hrest⟩) fun row hrow => ?_
      exact hplain row (List.mem_cons_of_mem _ hrow)
  · exact .table hrows fun row hrow => hplain row (List.mem_of_mem_tail hrow)

theorem wellFormed_of_blockOf? (hg : ∀ l ∈ g, IsLine l) (h : blockOf? g = some b) : b.WellFormed := by
  rcases g with _ | ⟨l, ls⟩
  · cases h
  have hl := hg l List.mem_cons_self
  rw [blockOf?] at h
  split at h
  next =>
    obtain rfl := Option.some.inj h
    exact wellFormed_table fun k hk => (hg k hk).oneLine
  split at h
  next => cases h
  split at h
  next heading hread =>
    obtain rfl := Option.some.inj h
    obtain ⟨hlow, hhigh⟩ := hl.heading_level hread
    exact .heading hlow hhigh fun _ => wellFormed_of_mem_runs (hl.heading_title hread).oneLine
  next =>
    obtain rfl := Option.some.inj h
    refine .text fun _ => wellFormed_of_mem_runs fun hmem => hl.oneLine ?_
    split at hmem
    · rw [String.toList_ofList] at hmem
      exact List.mem_of_mem_drop hmem
    · exact hmem

end Blocks

theorem wellFormed_reading {ls : List String} (h : ∀ l ∈ ls, IsLine l) : (reading ls).WellFormed where
  title := by
    intro t ht
    obtain ⟨heading, hfirst, rfl⟩ := Option.map_eq_some_iff.1 ht
    obtain ⟨l, hl, hread⟩ := List.exists_of_findSome?_eq_some hfirst
    exact (h l hl).heading_title hread
  blocks := by
    intro b hb
    obtain ⟨g, hg, hblock⟩ := List.mem_filterMap.1 hb
    have hstretch : g ∈ stretches ls := List.mem_of_mem_eraseP hg
    refine wellFormed_of_blockOf? (fun l hl => h l ?_) hblock
    rw [← List.flatten_splitBy (fun a b => isPipe a && isPipe b) ls]
    exact List.mem_flatten_of_mem hstretch hl

theorem wellFormed_slide (segment : String) : (slide segment).WellFormed := by
  rw [slide_eq_reading]
  exact wellFormed_reading fun _ => isLine_of_mem_trimmedLines

theorem displayTitle_ne_empty (segment : String) : (slide segment).displayTitle ≠ "" := by
  unfold Slide.displayTitle
  cases h : (slide segment).title with
  | none => decide
  | some title => exact ((wellFormed_slide segment).title title h).filled

/-- Whatever a deck holds, its document is well formed. -/
theorem document_wellFormed (deck : String) : (document deck).WellFormed := by
  have hslides : (document deck).slides = (segments deck).map slide := by rw [document]
  unfold Document.WellFormed
  rw [hslides]
  intro s hs
  obtain ⟨segment, -, hsegment⟩ := List.mem_map.1 hs
  rw [← hsegment]
  exact wellFormed_slide segment

end Markup

end SlideDeck
