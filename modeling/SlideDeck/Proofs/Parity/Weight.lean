import Mathlib.Data.List.Forall2
import SlideDeck.Proofs.Drawing.Looks
import SlideDeck.Proofs.Layout.Nodes

/-! The weight of the runs of a body in the two outputs. A drawing starts from the weight that the
theme gives to plain text in every line. A layout does so too outside tables, but in the rows of a
table plain text has the theme's weight nowhere. -/

namespace SlideDeck

namespace Drawing

open Body (PlacedRun placedRuns)

/-- All the text in the span is bold, or none of it is. -/
def Content.HasWeight (c : Content) (span : Span) (bold : Bool) : Prop :=
  ∀ unit, span.covers unit = true →
    ∃ look, c.looks[unit]? = some look ∧ look.style.bold = some bold

theorem hasWeight_placedRun (s : Sheet) {page : Slide} {p : PlacedRun}
    (hp : p ∈ placedRuns page.blocks) (htext : p.run.text ≠ "") :
    ∃ c, Content.after? (s.id .body) (s.ops page) = some c ∧
      c.text = (Body.ofBlocks page.blocks).text ∧
      c.HasWeight p.span
        (s.theme.typography.body.bold || (p.kind.isStrong || p.run.bold)) := by
  have hslice := Body.slice_placedRun hp
  have hbody : (Body.ofBlocks page.blocks).text ≠ "" := by
    intro hempty
    rw [hempty] at hslice
    obtain ⟨before, after, hsplit, -⟩ := Span.slice_eq_some_iff.1 hslice
    simp_all
  refine ⟨_, by rw [after?_body, if_neg hbody], Content.text_foldl_restyle _ _, ?_⟩
  intro unit hcover
  have hlook : (Content.plain (Body.ofBlocks page.blocks).text).looks[unit]? = some {} := by
    have hbounds := (Body.ordered_placedRuns page.blocks).bounds (List.mem_map_of_mem hp)
    simp only [Span.covers, Bool.and_eq_true, decide_eq_true_eq] at hcover
    rw [Content.plain, List.getElem?_replicate, if_pos (by omega)]
  refine ⟨_, by rw [Content.getElem?_looks_foldl_restyle, hlook, Option.map_some], ?_⟩
  have hstyle : s.styleAt page.blocks unit = s.styleIn p.kind p.run.bold :=
    s.styleAt_placedRun hp hcover
  rw [Sheet.styleAt] at hstyle
  rw [hstyle]
  rfl

theorem plainBold_or_eq_iff (theme : Theme) (kind : LineKind) (bold : Bool) :
    (Layout.plainBold theme kind || bold) =
        (theme.typography.body.bold || (kind.isStrong || bold)) ↔
      ¬ (theme.typography.body.bold = true ∧ kind = .row false ∧ bold = false) := by
  cases kind with
  | heading level => simp [LineKind.isStrong, Layout.plainBold]
  | text bullet => simp [LineKind.isStrong, Layout.plainBold]
  | row header =>
    cases header <;> cases bold <;> simp [LineKind.isStrong, Layout.plainBold]

/-- Every run that has text is drawn in one weight. This is the weight that the layout shows it
in, but for plain runs in the rows of a table that are not headers, where the theme makes plain
text bold. -/
theorem weights_agree_iff (index : Nat) (page : Slide) (theme : Theme) (canvas : Canvas)
    (layout : LayoutStyle) (style : DrawingStyle) :
    let d := Layout.describe page theme canvas layout
    let id := objectId style.idPrefix index Role.body.name
    d.weights.map Prod.fst = page.blocks.flatMap Block.runs ∧
      ((placedRuns page.blocks).map PlacedRun.span).Pairwise (fun a b => a.stop ≤ b.start) ∧
      List.Forall₂
        (fun w p => p.run = w.1 ∧ (p.run.text ≠ "" →
          ∃ c bold, Content.after? id (slide index page theme layout style) = some c ∧
            p.span.slice c.text = some p.run.text ∧ c.HasWeight p.span bold ∧
            (w.2 = bold ↔
              ¬ (theme.typography.body.bold = true ∧ p.kind = .row false ∧ p.run.bold = false))))
        d.weights (placedRuns page.blocks) := by
  intro d id
  have hweights := Layout.weights_describe page theme canvas layout
  refine ⟨?_, (Body.ordered_placedRuns page.blocks).pairwise, ?_⟩
  · rw [hweights, List.map_map, ← Body.map_run_placedRuns]
    rfl
  · rw [hweights, List.forall₂_map_left_iff, List.forall₂_same]
    intro p hp
    refine ⟨rfl, fun htext => ?_⟩
    obtain ⟨c, hc, hbody, hweight⟩ :=
      hasWeight_placedRun ⟨index, theme, layout, style⟩ hp htext
    exact ⟨c, _, hc, by rw [hbody, Body.slice_placedRun hp], hweight, plainBold_or_eq_iff ..⟩

/-- The cell of a table with a single row, where the theme makes plain text bold. -/
theorem plain_cell_weight_differs :
    let body : TextStyle := { Theme.professionalCard.typography.body with bold := true }
    let theme : Theme :=
      { Theme.professionalCard with
        typography := { Theme.professionalCard.typography with body := body } }
    let page : Slide := ⟨none, [.table [⟨[⟨[.plain "x"]⟩], false⟩]]⟩
    (Layout.describe page theme .default .default).weights = [(.plain "x", false)] ∧
      ∃ c, Content.after? (objectId "sm" 0 "body") (slide 0 page theme .default .default) = some c ∧
        c.text = "x" ∧ c.HasWeight ⟨0, 1⟩ true := by
  intro body theme page
  have hplaced : placedRuns page.blocks = [⟨.row false, .plain "x", ⟨0, 1⟩⟩] := by rfl
  have hmem : (⟨.row false, .plain "x", ⟨0, 1⟩⟩ : PlacedRun) ∈ placedRuns page.blocks := by
    simp [hplaced]
  refine ⟨by rw [Layout.weights_describe, hplaced]; rfl, ?_⟩
  exact hasWeight_placedRun ⟨0, theme, .default, .default⟩ hmem (by decide)

end Drawing

end SlideDeck
