import SlideDeck.Proofs.Drawing.Body

/-! The stretches of the body that the commands for a slide name. Lines and runs are styled only
where they have text. A bullet line without text has bullets too, so its stretch can be empty. -/

namespace SlideDeck.Drawing

namespace Op

def styledSpan? : Op → Option Span
  | .styleText _ (.fixed span) _ => some span
  | _ => none

def bulletSpan? : Op → Option Span
  | .addBullets _ span _ => some span
  | _ => none

theorem bulletSpan?_eq_some_iff {op : Op} {span : Span} :
    op.bulletSpan? = some span ↔ ∃ id preset, op = .addBullets id span preset := by
  cases op <;> simp [bulletSpan?]

end Op

namespace Sheet

variable (s : Sheet) (page : Slide)

/-- Of all the commands for a slide only those for the lines, the runs and the bullets of the body
name a stretch of text. -/
theorem filterMap_ops {f : Op → Option Span} (hnone : ∀ op, op.extent? = none → f op = none)
    (hall : ∀ op, op.extent? = some .all → f op = none) :
    (s.ops page).filterMap f =
      if (Body.ofBlocks page.blocks).text = "" then []
      else
        (s.lineStyles (.ofBlocks page.blocks)).filterMap f ++
          ((s.boldStyles (.ofBlocks page.blocks)).filterMap f ++
            (s.bullets (.ofBlocks page.blocks)).filterMap f) := by
  have hskip {ops : List Op} (h : ∀ op ∈ ops, op.extent? = none ∨ op.extent? = some .all) :
      ops.filterMap f = [] :=
    List.filterMap_eq_nil_iff.2 fun op hop => (h op hop).elim (hnone op) (hall op)
  have hsurface : s.surface.filterMap f = [] := hskip (by simp [surface, Op.extent?])
  have hshapes : s.shapes.filterMap f = [] := by
    refine hskip ?_
    unfold shapes
    split <;> simp [filledShape, Op.extent?]
  have htitle : (s.title page).filterMap f = [] :=
    hskip (by simp [title, textBox, fillText, Op.extent?])
  have hcaption : s.caption.filterMap f = [] := by
    refine hskip ?_
    unfold caption
    split <;> simp [textBox, fillText, Op.extent?]
  have hbody : (s.body page).filterMap f = (s.bodyText (.ofBlocks page.blocks)).filterMap f := by
    rw [body, List.filterMap_cons_none (hnone _ rfl)]
  rw [ops, List.filterMap_append, List.filterMap_append, List.filterMap_append,
    List.filterMap_append, hsurface, hshapes, htitle, hcaption, hbody, bodyText_eq]
  split
  · rfl
  · rw [bodyStyles, List.filterMap_cons_none (hnone _ rfl), List.filterMap_cons_none (hall _ rfl),
      List.filterMap_append, List.filterMap_append, List.filterMap_cons_none (hall _ rfl)]
    rfl

theorem styledSpans_ops :
    (s.ops page).filterMap Op.styledSpan? =
      if (Body.ofBlocks page.blocks).text = "" then []
      else
        (((Body.ofBlocks page.blocks).lines.filter fun l =>
            !l.span.isEmpty && (s.lineChange? l.kind).isSome).map BodyLine.span) ++
          (Body.ofBlocks page.blocks).bold := by
  have hnone (op : Op) (hop : op.extent? = none) : op.styledSpan? = none := by
    cases op <;> simp_all [Op.extent?, Op.styledSpan?]
  have hall (op : Op) (hop : op.extent? = some .all) : op.styledSpan? = none := by
    cases op <;> simp_all [Op.extent?, Op.styledSpan?]
  have hlines : (s.lineStyles (.ofBlocks page.blocks)).filterMap Op.styledSpan? =
      (((Body.ofBlocks page.blocks).lines.filter fun l =>
        !l.span.isEmpty && (s.lineChange? l.kind).isSome).map BodyLine.span) := by
    rw [lineStyles, List.filterMap_filterMap, ← List.filterMap_eq_map, List.filterMap_filter,
      List.filterMap_filter]
    refine List.filterMap_congr fun l _ => ?_
    cases s.lineChange? l.kind <;> cases l.span.isEmpty <;> rfl
  have hbold : (s.boldStyles (.ofBlocks page.blocks)).filterMap Op.styledSpan? =
      (Body.ofBlocks page.blocks).bold := by
    rw [boldStyles_ofBlocks, List.filterMap_map]
    exact List.filterMap_some
  have hbullets : (s.bullets (.ofBlocks page.blocks)).filterMap Op.styledSpan? = [] := by
    unfold bullets
    split <;> simp [Op.styledSpan?]
  rw [s.filterMap_ops page hnone hall, hlines, hbold, hbullets, List.append_nil]

theorem bulletSpans_ops :
    (s.ops page).filterMap Op.bulletSpan? =
      if s.theme.isCover = true ∨ (Body.ofBlocks page.blocks).text = "" then []
      else (Body.ofBlocks page.blocks).bulletSpans := by
  have hnone (op : Op) (hop : op.extent? = none) : op.bulletSpan? = none := by
    cases op <;> simp_all [Op.extent?, Op.bulletSpan?]
  have hall (op : Op) (hop : op.extent? = some .all) : op.bulletSpan? = none := by
    cases op <;> simp_all [Op.extent?, Op.bulletSpan?]
  have hlines : (s.lineStyles (.ofBlocks page.blocks)).filterMap Op.bulletSpan? = [] := by
    rw [lineStyles, List.filterMap_filterMap]
    refine List.filterMap_eq_nil_iff.2 fun l _ => ?_
    cases s.lineChange? l.kind <;> rfl
  have hbold : (s.boldStyles (.ofBlocks page.blocks)).filterMap Op.bulletSpan? = [] := by
    simp [boldStyles, styleBody, Op.bulletSpan?]
  have hbullets : (s.bullets (.ofBlocks page.blocks)).filterMap Op.bulletSpan? =
      if s.theme.isCover = true then [] else (Body.ofBlocks page.blocks).bulletSpans := by
    unfold bullets
    split
    · rfl
    · rw [List.filterMap_map]
      exact List.filterMap_some
  rw [s.filterMap_ops page hnone hall, hlines, hbold, hbullets]
  by_cases hcover : s.theme.isCover = true <;> simp [hcover]

theorem start_lt_stop_of_mem_styledSpans {span : Span}
    (h : span ∈ (s.ops page).filterMap Op.styledSpan?) : span.start < span.stop := by
  rw [styledSpans_ops] at h
  split at h
  · exact absurd h List.not_mem_nil
  · rcases List.mem_append.1 h with h | h
    · obtain ⟨l, hl, rfl⟩ := List.mem_map.1 h
      have hfull := (Bool.and_eq_true_iff.1 (List.mem_filter.1 hl).2).1
      rwa [Bool.not_eq_true', Span.isEmpty_eq_false_iff] at hfull
    · exact Body.start_lt_stop_of_mem_bold h

end Sheet

/-- The lines and runs that a slide's commands style have text. A stretch with bullets is empty
exactly if it is that of a bullet line without text that stands alone, in a body with other text on a
slide that is no cover. -/
theorem empty_bullets_iff (index : Nat) (page : Slide) (theme : Theme) (layout : LayoutStyle)
    (style : DrawingStyle) :
    let ops := slide index page theme layout style
    (∀ id span change, .styleText id (.fixed span) change ∈ ops → span.start < span.stop) ∧
      ((∃ id span preset, .addBullets id span preset ∈ ops ∧ ¬span.start < span.stop) ↔
        theme.isCover = false ∧ (Body.ofBlocks page.blocks).text ≠ "" ∧
          Body.HasLoneBullet page.blocks) := by
  intro ops
  let s : Sheet := ⟨index, theme, layout, style⟩
  refine ⟨fun id span change hop => ?_, ?_⟩
  · exact s.start_lt_stop_of_mem_styledSpans page (List.mem_filterMap.2 ⟨_, hop, rfl⟩)
  · have hspans : (∃ id span preset, .addBullets id span preset ∈ ops ∧ ¬span.start < span.stop) ↔
        ∃ span ∈ ops.filterMap Op.bulletSpan?, ¬span.start < span.stop := by
      constructor
      · rintro ⟨id, span, preset, hop, hempty⟩
        exact ⟨span, List.mem_filterMap.2 ⟨_, hop, rfl⟩, hempty⟩
      · rintro ⟨span, hspan, hempty⟩
        obtain ⟨op, hop, hsome⟩ := List.mem_filterMap.1 hspan
        obtain ⟨id, preset, rfl⟩ := Op.bulletSpan?_eq_some_iff.1 hsome
        exact ⟨id, span, preset, hop, hempty⟩
    have hdrawn : ops.filterMap Op.bulletSpan? = _ := s.bulletSpans_ops page
    rw [hspans, hdrawn, ← Body.exists_empty_bulletSpan_iff]
    by_cases hnone : s.theme.isCover = true ∨ (Body.ofBlocks page.blocks).text = ""
    · rw [if_pos hnone]
      simp only [List.not_mem_nil, false_and, exists_false, false_iff, not_and]
      intro hcover htext
      exact absurd hnone (by simp [s, hcover, htext])
    · rw [if_neg hnone]
      obtain ⟨hcover, htext⟩ := not_or.1 hnone
      exact ⟨fun h => ⟨Bool.eq_false_iff.2 hcover, htext, h⟩, fun h => h.2.2⟩

/-- A bullet line without text below other text. -/
theorem lone_bullet_names_nothing :
    let page : Slide := ⟨none, [.text [.plain "plain"] false, .text [] true]⟩
    (slide 0 page Theme.professionalCard .default .default).filterMap Op.bulletSpan? = [⟨6, 6⟩] := by
  intro page
  have hspans : (Body.ofBlocks page.blocks).bulletSpans = [⟨6, 6⟩] := by decide
  have htext : (Body.ofBlocks page.blocks).text = "plain\n" := by decide
  have hcover : Theme.professionalCard.isCover = false := by decide
  have hdrawn := Sheet.bulletSpans_ops ⟨0, Theme.professionalCard, .default, .default⟩ page
  rwa [hspans, htext, if_neg (by simp [hcover])] at hdrawn

end SlideDeck.Drawing
