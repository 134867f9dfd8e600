import SlideDeck.Proofs.Drawing.Bullets
import SlideDeck.Proofs.Layout.Nodes

/-! The bullets of a slide in the two outputs. The layout decides for every block whether it has a
mark, and the commands for a slide name stretches of the whole body, which run over many lines. -/

namespace SlideDeck.Drawing

open Body (linesOf ofBlocks)

/-- A text block has a mark in the layout where its line lies in one of the stretches that are given
bullets, and it lies in no more than one. The other lines lie in none. -/
structure BulletsAgree (blocks : List Block) (nodes : List Layout.BodyNode) (drawn : List Span) :
    Prop where
  text : ∀ i runs bullet, blocks[i]? = some (.text runs bullet) →
    ∃ frame mark text line,
      nodes[i]? = some (.line frame mark text) ∧
        (ofBlocks blocks).lines[((blocks.take i).flatMap linesOf).length]? = some line ∧
        line.kind = .text bullet ∧
        line.span.slice (ofBlocks blocks).text = some (plainText runs) ∧
        drawn.countP (·.encloses line.span) = if mark.isSome then 1 else 0
  other : ∀ line ∈ (ofBlocks blocks).lines, (∀ bullet, line.kind ≠ .text bullet) →
    ∀ span ∈ drawn, span.encloses line.span = false

theorem getElem?_line_of_text {blocks : List Block} {i : Nat} {runs : List Run} {bullet : Bool}
    (h : blocks[i]? = some (.text runs bullet)) :
    ∃ line, (ofBlocks blocks).lines[((blocks.take i).flatMap linesOf).length]? = some line ∧
      line.kind = .text bullet ∧
      line.span.slice (ofBlocks blocks).text = some (plainText runs) := by
  obtain ⟨line, hat, hkind, hslice⟩ := Body.getElem?_lines h (j := 0) rfl
  exact ⟨line, hat, hkind, by simpa [Body.Source.text, Body.rowText] using hslice⟩

namespace Sheet

variable (s : Sheet) (page : Slide)

theorem countP_bulletSpans_ops (htext : (ofBlocks page.blocks).text ≠ "") {line : BodyLine}
    (hline : line ∈ (ofBlocks page.blocks).lines) :
    ((s.ops page).filterMap Op.bulletSpan?).countP (·.encloses line.span) =
      if line.isBullet && !s.theme.isCover then 1 else 0 := by
  rw [s.bulletSpans_ops page]
  simp only [htext, or_false]
  cases s.theme.isCover with
  | true => simp
  | false => simpa using Body.countP_bulletSpans hline

theorem getElem?_node_of_text (canvas : Canvas) {i : Nat} {runs : List Run} {bullet : Bool}
    (h : page.blocks[i]? = some (.text runs bullet)) :
    ∃ frame mark text,
      (Layout.describe page s.theme canvas s.layout).body[i]? = some (.line frame mark text) ∧
        mark.isSome = (bullet && !s.theme.isCover) := by
  obtain ⟨bodySize, gap, width, hbody⟩ := Layout.body_describe page s.theme canvas s.layout
  obtain ⟨y, hnode⟩ := Layout.getElem?_layBlocks s.theme s.layout bodySize gap width h 0
  exact ⟨_, _, _, by rw [hbody, hnode, Layout.layBlock],
    Layout.isSome_bulletMark? s.theme s.layout bodySize bullet⟩

end Sheet

/-- Where the body of a slide has text, the two outputs give bullets to the same lines. -/
theorem bullets_agree (index : Nat) (page : Slide) (theme : Theme) (canvas : Canvas)
    (layout : LayoutStyle) (style : DrawingStyle) (htext : (ofBlocks page.blocks).text ≠ "") :
    BulletsAgree page.blocks (Layout.describe page theme canvas layout).body
      ((slide index page theme layout style).filterMap Op.bulletSpan?) := by
  let s : Sheet := ⟨index, theme, layout, style⟩
  refine { text := fun i runs bullet h => ?_, other := fun line hline hkind span hspan => ?_ }
  · obtain ⟨frame, mark, text, hnode, hmark⟩ := s.getElem?_node_of_text page canvas h
    obtain ⟨line, hat, hkind, hslice⟩ := getElem?_line_of_text h
    have hcount := s.countP_bulletSpans_ops page htext (List.mem_of_getElem? hat)
    have hbullet : line.isBullet = bullet := by rw [BodyLine.isBullet, hkind, LineKind.isBullet]
    rw [hbullet, ← hmark] at hcount
    exact ⟨frame, mark, text, line, hnode, hat, hkind, hslice, hcount⟩
  · have hcount := s.countP_bulletSpans_ops page htext hline
    have hbullet : line.isBullet = false := by
      rw [Bool.eq_false_iff]
      exact fun h => hkind true (LineKind.isBullet_iff.1 h)
    rw [hbullet, Bool.false_and, if_neg Bool.false_ne_true, List.countP_eq_zero] at hcount
    exact Bool.eq_false_iff.2 (hcount span hspan)

/-- Two groups of bullets, with a table and a bullet without text. -/
theorem bullets_agree_around_table :
    let page : Slide := ⟨none,
      [.text [.plain "a"] true, .table [], .text [] true, .table [⟨[⟨[.plain "x"]⟩], false⟩],
        .text [.plain "b"] true]⟩
    let drawn := (slide 0 page Theme.professionalCard .default .default).filterMap Op.bulletSpan?
    (ofBlocks page.blocks).text ≠ "" ∧ drawn = [⟨0, 2⟩, ⟨5, 6⟩] ∧
      BulletsAgree page.blocks (Layout.describe page Theme.professionalCard .default .default).body
        drawn := by
  intro page drawn
  have htext : (ofBlocks page.blocks).text ≠ "" := by decide
  refine ⟨htext, ?_, bullets_agree 0 page Theme.professionalCard .default .default .default htext⟩
  have hops : drawn = _ :=
    Sheet.bulletSpans_ops ⟨0, Theme.professionalCard, .default, .default⟩ page
  have hcover : Theme.professionalCard.isCover = false := by decide
  rw [hops, if_neg (by simp [hcover, htext])]
  decide

end SlideDeck.Drawing
