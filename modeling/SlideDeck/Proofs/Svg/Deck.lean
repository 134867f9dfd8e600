import SlideDeck.Proofs.Markup.Origin
import SlideDeck.Proofs.Svg.Characters
import SlideDeck.Proofs.Theme.Registry

/-! The pictures of a deck, and the characters in it that no document can hold. Nothing takes them out
on the way: what a slide says is drawn, and all that is drawn ends up in the document. -/

namespace SlideDeck

open Svg (IsXmlChar IsXmlText Occurs render bitmapSize)

structure Settings.IsXml (s : Settings) : Prop where
  glyph : IsXmlText s.layout.bulletGlyph
  caption : IsXmlText s.layout.footerCaption
  families : ∀ slide, ∀ family ∈ (s.themeFor slide).families, IsXmlText family

theorem Settings.themeFor_default (slide : Nat) :
    Settings.default.themeFor slide = .professionalCard := by
  have hid : Assignment.default.idFor slide = defaultId := by
    simp [Assignment.idFor, Assignment.default, Assignment.ofId]
  have hanswer := Registry.Answers.builtin.themeFor .default slide
  rw [hid] at hanswer
  exact Option.some.inj (hanswer.trans rfl)

theorem Settings.isXml_default : Settings.default.IsXml where
  glyph := by decide
  caption := by decide
  families slide := by
    rw [themeFor_default]
    decide

namespace Svg

section Slides

variable {s : Settings} {slide : Slide} {c : Char}

theorem mem_render_describe_iff (hs : s.IsXml) (hc : ¬IsXmlChar c) (i : Nat) :
    let d := Layout.describe slide (s.themeFor i) s.canvas s.layout
    c ∈ (render d).toList ↔ ∃ t ∈ d.texts, c ∈ t.shown := by
  intro d
  have hfamilies : ∀ t ∈ d.texts, IsXmlText t.font.family := by
    intro t ht
    obtain ⟨form, hform, hfamily⟩ := Layout.isLaid_describe slide (s.themeFor i) s.canvas s.layout t ht
    rw [hform]
    exact hs.families i _ hfamily
  have hbullets : ¬Occurs c d.bullets := by
    rintro ⟨g, hg, hmem⟩
    rw [Layout.bullets_describe slide (s.themeFor i) s.canvas s.layout g hg] at hmem
    exact hc (hs.glyph c hmem)
  rw [mem_render_iff hc hfamilies, or_iff_right hbullets]

theorem mem_runs_of_mem_render (hs : s.IsXml) (hc : ¬IsXmlChar c) {i : Nat}
    (h : c ∈ (render (Layout.describe slide (s.themeFor i) s.canvas s.layout)).toList) :
    c ∈ Layout.chars slide.runs := by
  obtain ⟨t, ht, hmem⟩ := (mem_render_describe_iff hs hc i).1 h
  rcases Layout.mem_of_shown_describe ht hmem with hmem | hmem
  · exact hmem
  · exact absurd (hs.caption c hmem) hc

theorem mem_render_of_mem_runs (hs : s.IsXml) (hc : ¬IsXmlChar c) (i : Nat)
    (h : c ∈ Layout.chars slide.runs) (hletter : Text.isBlank c = false) :
    c ∈ (render (Layout.describe slide (s.themeFor i) s.canvas s.layout)).toList :=
  (mem_render_describe_iff hs hc i).2 (Layout.exists_shown_describe h hletter)

end Slides

theorem getElem?_deck {markdown : String} (s : Settings) {i : Nat} {slide : Slide}
    (h : (Markup.document markdown).slides[i]? = some slide) :
    (Layout.deck markdown s)[i]? = some (Layout.describe slide (s.themeFor i) s.canvas s.layout) := by
  rw [Layout.deck, Layout.document, List.getElem?_mapIdx, h, Option.map_some]

theorem isXmlText_of_mem_document {markdown : String} (h : IsXmlText markdown) {slide : Slide}
    (hslide : slide ∈ (Markup.document markdown).slides) :
    ∀ c ∈ Layout.chars slide.runs, IsXmlChar c := by
  have hlabel : IsXmlText "No Title" := by decide
  intro c hc
  obtain ⟨r, hr, hmem⟩ := List.mem_flatMap.1 hc
  rcases Markup.subset_of_mem_document hslide hr with htext | hsubset
  · rw [htext] at hmem
    exact hlabel c hmem
  · exact h c (hsubset hmem)

theorem exists_badChar_iff (d : Layout.Descriptor) (style : PictureStyle) :
    (∃ c line column, bitmapSize d style = .error (.badChar c line column)) ↔
      ¬IsXmlText (render d) := by
  have hchars : (render d).toList = (picture d).chars := String.toList_ofList
  rw [IsXmlText, hchars]
  rcases badChar?_cases 1 1 (picture d).chars with
    ⟨hall, hnone⟩ | ⟨c, hmem, hc, line, column, hsome⟩
  · refine iff_of_false ?_ (not_not_intro hall)
    rintro ⟨c, line, column, hfault⟩
    simp only [bitmapSize, hnone] at hfault
    split_ifs at hfault
    all_goals cases hfault
  · refine iff_of_true ⟨c, line, column, ?_⟩ fun hall => hc (hall c hmem)
    simp only [bitmapSize, hsome]

/-- Where the strings of the settings are fit for a document, the unfit characters of a picture are
those that the lines of its texts show. They come from what the slide says, and all of those are there
that are no white space. From a deck that is fit for a document come such pictures, and loading a
picture fails at a character exactly if it has an unfit one. -/
theorem unfit_chars_reach_picture (markdown : String) (s : Settings) (hs : s.IsXml) {i : Nat}
    {slide : Slide} (hslide : (Markup.document markdown).slides[i]? = some slide) :
    ∃ d, (Layout.deck markdown s)[i]? = some d ∧
      (∀ c, ¬IsXmlChar c → (c ∈ (render d).toList ↔ ∃ t ∈ d.texts, c ∈ t.shown)) ∧
      (∀ c ∈ (render d).toList, IsXmlChar c ∨ c ∈ (plainText slide.runs).toList) ∧
      (∀ c ∈ (plainText slide.runs).toList, Text.isBlank c = false → ¬IsXmlChar c →
        c ∈ (render d).toList) ∧
      (IsXmlText markdown → IsXmlText (render d)) ∧
      ∀ style, (∃ c line column, bitmapSize d style = .error (.badChar c line column)) ↔
        ¬IsXmlText (render d) := by
  rw [Layout.toList_plainText]
  have hback : ∀ c ∈ (render (Layout.describe slide (s.themeFor i) s.canvas s.layout)).toList,
      IsXmlChar c ∨ c ∈ Layout.chars slide.runs := fun c hc =>
    or_iff_not_imp_left.2 fun hunfit => mem_runs_of_mem_render hs hunfit hc
  refine ⟨_, getElem?_deck s hslide, fun c hunfit => mem_render_describe_iff hs hunfit i, hback,
    fun c hc hletter hunfit => mem_render_of_mem_runs hs hunfit i hc hletter, fun hdeck c hc => ?_,
    exists_badChar_iff _⟩
  rcases hback c hc with hchar | hmem
  · exact hchar
  · exact isXmlText_of_mem_document hdeck (List.mem_of_getElem? hslide) c hmem

theorem noncharacter_reaches_picture :
    Settings.default.IsXml ∧
      (∃ d, (Layout.deck "# A\n- <b>" .default)[0]? = some d ∧ IsXmlText (render d)) ∧
      ∃ d, (Layout.deck "# A\n---\n# B\uFFFE" .default)[1]? = some d ∧ '\uFFFE' ∈ (render d).toList ∧
        ∀ style, ∃ c line column, bitmapSize d style = .error (.badChar c line column) := by
  have hunfit : ¬IsXmlChar '\uFFFE' := by decide
  have hplain : (Markup.document "# A\n- <b>").slides[0]?.isSome := by
    rw [Option.isSome_iff_ne_none, ne_eq, List.getElem?_eq_none_iff]
    decide
  have hbad : (Markup.document "# A\n---\n# B\uFFFE").slides[1]? = some ⟨some "B\uFFFE", []⟩ := by
    decide
  obtain ⟨slide, hslide⟩ := Option.isSome_iff_exists.1 hplain
  obtain ⟨d, hd, -, -, -, hfit, -⟩ := unfit_chars_reach_picture _ _ Settings.isXml_default hslide
  obtain ⟨d', hd', -, -, hdrawn, -, hloads⟩ := unfit_chars_reach_picture _ _ Settings.isXml_default hbad
  have hmem : '\uFFFE' ∈ (render d').toList := hdrawn '\uFFFE' (by decide) (by decide) hunfit
  have hnot : ¬IsXmlText (render d') := fun h => hunfit (h '\uFFFE' hmem)
  exact ⟨Settings.isXml_default, ⟨d, hd, hfit (by decide)⟩, d', hd', hmem,
    fun style => (hloads style).2 hnot⟩

/-- A control character in a title is in a picture that then cannot be loaded. -/
theorem control_char_reaches_picture :
    Settings.default.IsXml ∧ ∃ d ∈ Layout.deck "# T\x01" .default, '\x01' ∈ (render d).toList ∧
      ¬IsXmlText (render d) ∧
      ∀ style, ∃ c line column, bitmapSize d style = .error (.badChar c line column) := by
  let slide : Slide := ⟨some "T\x01", []⟩
  have hunfit : ¬IsXmlChar '\x01' := by decide
  have hsaid : '\x01' ∈ Layout.chars slide.runs := by decide
  have hslide : (Markup.document "# T\x01").slides[0]? = some slide := by decide
  have hd := getElem?_deck .default hslide
  have hmem := mem_render_of_mem_runs Settings.isXml_default hunfit 0 hsaid (by decide)
  have hnot := fun h : IsXmlText (render _) => hunfit (h '\x01' hmem)
  exact ⟨Settings.isXml_default, _, List.mem_of_getElem? hd, hmem, hnot,
    fun style => (exists_badChar_iff _ style).2 hnot⟩

end Svg

end SlideDeck
