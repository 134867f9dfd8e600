import SlideDeck.Proofs.Drawing.Groups
import SlideDeck.Proofs.Layout.Nodes

/-! The two outputs say the same. For every slide the texts of the layout are the texts that the
commands insert, and where the layout has a bar or a filled card, a shape is drawn. -/

namespace SlideDeck.Drawing

structure ShowsSame (idPrefix : String) (index : Nat) (d : Layout.Descriptor) (ops : List Op) :
    Prop where
  page : ops.head? = some (.createSurface (objectId idPrefix index "page") index)
  title : ∃ t, d.title? = some t ∧ insertedInto (objectId idPrefix index "title") ops = [t.text]
  caption : ∃ t, d.caption? = some t ∧
    insertedInto (objectId idPrefix index "caption") ops = if t.text = "" then [] else [t.text]
  body : insertedInto (objectId idPrefix index "body") ops =
    if d.bodyText = "" then [] else [d.bodyText]
  header : (∃ surface kind frame align,
    .createShape (objectId idPrefix index "header") surface kind frame align ∈ ops) ↔
      d.hasHeader = true
  card : (∃ surface kind frame align,
    .createShape (objectId idPrefix index "card") surface kind frame align ∈ ops) ↔
      d.cardFill?.isSome = true

namespace Sheet

variable (s : Sheet)

theorem insertedInto_title (page : Slide) :
    insertedInto (s.id .title) (s.ops page) = [page.displayTitle] := by
  rw [insertedInto, opsFor_ops]
  rfl

theorem insertedInto_caption (page : Slide) :
    insertedInto (s.id .caption) (s.ops page) =
      if s.layout.footerCaption = "" then [] else [s.layout.footerCaption] := by
  rw [insertedInto, opsFor_ops, opsOf, caption]
  by_cases hempty : s.layout.footerCaption = ""
  · simp [hempty, textBox, Op.inserted?]
  · simp [hempty, textBox, fillText, Op.inserted?, List.filterMap_cons]

theorem insertedInto_body (page : Slide) :
    insertedInto (s.id .body) (s.ops page) =
      if (Body.ofBlocks page.blocks).text = "" then [] else [(Body.ofBlocks page.blocks).text] := by
  have hstyles : (s.bodyStyles (.ofBlocks page.blocks)).filterMap Op.inserted? = [] := by
    refine List.filterMap_eq_nil_iff.2 fun op hop => ?_
    rcases (s.extent_of_mem_bodyStyles hop).2 with hall | ⟨span, -, hfixed⟩
    · exact inserted?_of_extent? hall
    · exact inserted?_of_extent? hfixed
  rw [insertedInto, opsFor_ops, opsOf, body, bodyText_eq]
  by_cases hempty : (Body.ofBlocks page.blocks).text = ""
  · simp [hempty, textBox, Op.inserted?]
  · simp [hempty, hstyles, textBox, Op.inserted?, List.filterMap_cons]

theorem exists_createShape_iff (page : Slide) (role : Role) :
    (∃ surface kind frame align, .createShape (s.id role) surface kind frame align ∈ s.ops page) ↔
      ∃ surface kind frame align,
        .createShape (s.id role) surface kind frame align ∈ s.opsOf page role := by
  simp [← opsFor_ops, opsFor, Op.objectId]

theorem createShape_header_iff (page : Slide) :
    (∃ surface kind frame align,
      .createShape (s.id .header) surface kind frame align ∈ s.ops page) ↔
        s.theme.isCover = false := by
  rw [exists_createShape_iff, opsOf]
  cases s.theme.isCover <;> simp [filledShape]

theorem createShape_card_iff (page : Slide) :
    (∃ surface kind frame align,
      .createShape (s.id .card) surface kind frame align ∈ s.ops page) ↔
        s.theme.isCover = false := by
  rw [exists_createShape_iff, opsOf]
  cases s.theme.isCover <;> simp [filledShape]

theorem showsSame (page : Slide) (canvas : Canvas) :
    ShowsSame s.style.idPrefix s.index (Layout.describe page s.theme canvas s.layout)
      (s.ops page) where
  page := rfl
  title := by
    obtain ⟨t, ht, htext⟩ := Layout.title_describe page s.theme canvas s.layout
    exact ⟨t, ht, by rw [htext]; exact s.insertedInto_title page⟩
  caption := by
    obtain ⟨t, ht, htext⟩ := Layout.caption_describe page s.theme canvas s.layout
    exact ⟨t, ht, by rw [htext]; exact s.insertedInto_caption page⟩
  body := by
    rw [Layout.bodyText_describe]
    exact s.insertedInto_body page
  header := by
    rw [Layout.hasHeader_describe, Bool.not_eq_true']
    exact s.createShape_header_iff page
  card := by
    rw [Layout.isSome_cardFill_describe, Bool.not_eq_true']
    exact s.createShape_card_iff page

end Sheet

theorem showsSame_document (doc : Document) (s : Settings) {i : Nat} {page : Slide}
    (h : doc.slides[i]? = some page) :
    ∃ d ops, (Layout.document doc s)[i]? = some d ∧ (groups (document doc s))[i]? = some ops ∧
      ShowsSame s.drawing.idPrefix i d ops := by
  refine ⟨_, _, ?_, ?_, Sheet.showsSame ⟨i, s.themeFor i, s.layout, s.drawing⟩ page s.canvas⟩
  · rw [Layout.document, List.getElem?_mapIdx, h, Option.map_some]
  · rw [groups_document, List.getElem?_mapIdx, h, Option.map_some]
    rfl

/-- A deck has a layout and a group of commands for every slide, with the slides in order, and at
every slide the two say the same. -/
theorem layouts_show_same (markdown : String) (s : Settings) :
    let slides := (Markup.document markdown).slides
    let layouts := Layout.deck markdown s
    let drawn := groups (deck markdown s)
    layouts.length = slides.length ∧ drawn.length = slides.length ∧
      ∀ i, ∀ page ∈ slides[i]?, ∃ d ops, layouts[i]? = some d ∧ drawn[i]? = some ops ∧
        ShowsSame s.drawing.idPrefix i d ops := by
  refine ⟨List.length_mapIdx, ?_, fun i page hpage => showsSame_document _ s hpage⟩
  rw [deck, groups_document, List.length_mapIdx]

end SlideDeck.Drawing
