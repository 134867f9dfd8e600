import SlideDeck.Proofs.Body.Bullets
import SlideDeck.Proofs.Body.Runs
import SlideDeck.Proofs.Drawing.Objects

/-! The commands for the body of a slide. They style pieces of the text that was inserted, and one
of them for every bold span makes that span bold, after the styles of the lines. -/

namespace SlideDeck.Drawing

def Op.Styles (id text : String) (op : Op) : Prop :=
  op.objectId = id ∧ ∃ extent, op.extent? = some extent ∧ extent.fits text = true

namespace Sheet

variable (s : Sheet)

theorem styles_of_mem_bodyStyles {blocks : List Block} {op : Op}
    (h : op ∈ s.bodyStyles (.ofBlocks blocks)) :
    op.Styles (s.id .body) (Body.ofBlocks blocks).text := by
  obtain ⟨hid, hextent⟩ := s.extent_of_mem_bodyStyles h
  refine ⟨hid, ?_⟩
  rcases hextent with hall | ⟨span, hspan, hfixed⟩
  · exact ⟨.all, hall, rfl⟩
  · refine ⟨.fixed span, hfixed, ?_⟩
    rcases hspan with hline | hbold | hbullet
    · obtain ⟨l, hl, rfl⟩ := List.mem_map.1 hline
      exact Body.slice_line hl
    · rw [Body.bold_ofBlocks] at hbold
      obtain ⟨p, hp, rfl⟩ := List.mem_map.1 hbold
      show (p.span.slice _).isSome = true
      rw [Body.slice_placedRun (List.mem_filter.1 hp).1, Option.isSome_some]
    · exact Body.slice_bulletSpan hbullet

theorem boldStyles_ofBlocks (blocks : List Block) :
    s.boldStyles (.ofBlocks blocks) =
      (Body.ofBlocks blocks).bold.map fun span => s.styleBody (.fixed span) .embolden := by
  have hfull : ∀ span ∈ (Body.ofBlocks blocks).bold, (!span.isEmpty) = true := by
    intro span hspan
    rw [Bool.not_eq_true', Span.isEmpty_eq_false_iff]
    exact Body.start_lt_stop_of_mem_bold hspan
  rw [boldStyles, List.filter_eq_self.2 hfull]

end Sheet

/-- The bold spans of a body name the texts of its bold runs, in order and apart from each other,
and the body's text is made bold in these spans after the lines have their styles. -/
theorem bold_spans_drawn (index : Nat) (page : Slide) (theme : Theme) (layout : LayoutStyle)
    (style : DrawingStyle) :
    let s : Sheet := ⟨index, theme, layout, style⟩
    let body := Body.ofBlocks page.blocks
    body.bold.map (·.slice body.text) = (boldTexts page.blocks).map some ∧
      (∀ span ∈ body.bold, span.start < span.stop) ∧
      body.bold.Pairwise (fun a b => a.stop ≤ b.start) ∧
      (body.text = "" → body.bold = []) ∧
      opsFor (s.id .body) (slide index page theme layout style) =
        s.textBox .body (Regions.reference.bodyFor theme.isCover) .top ::
          if body.text = "" then []
          else
            .insertText (s.id .body) body.text :: .styleText (s.id .body) .all s.bodyChange ::
              (s.lineStyles body ++
                ((body.bold.map fun span =>
                    .styleText (s.id .body) (.fixed span) { bold := some true }) ++
                  .alignParagraphs (s.id .body) .all .start :: s.bullets body)) := by
  intro s body
  refine ⟨Body.map_slice_bold _, fun _ => Body.start_lt_stop_of_mem_bold,
    (Body.ordered_bold _).pairwise, fun htext => ?_, ?_⟩
  · -- A bold span in an empty text would have to be empty.
    refine List.eq_nil_iff_forall_not_mem.2 fun span hspan => ?_
    have hbounds := (Body.ordered_bold page.blocks).bounds hspan
    have hlt := Body.start_lt_stop_of_mem_bold hspan
    have hzero : Text.units (Body.ofBlocks page.blocks).text = 0 := Text.units_eq_zero_iff.2 htext
    omega
  · have hbody : opsFor (s.id .body) (s.ops page) = s.body page := s.opsFor_ops page .body
    rw [slide, hbody, Sheet.body, Sheet.bodyText_eq, Sheet.bodyStyles,
      Sheet.boldStyles_ofBlocks]
    rfl

end SlideDeck.Drawing
