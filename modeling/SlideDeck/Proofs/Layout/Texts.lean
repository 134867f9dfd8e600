import SlideDeck.Proofs.Layout.Glyphs
import SlideDeck.Proofs.Layout.Nodes

/-! The texts of a slide that is laid out: its title, those in its card, and the caption. Together they
are the runs of the slide, each text is in a font of the theme, and its lines show all that it says but
for white space. -/

namespace SlideDeck

def Theme.families (t : Theme) : List String :=
  [t.typography.header.fontFamily, t.typography.body.fontFamily, t.typography.footer.fontFamily]

namespace Layout

def Box.texts : Box → List TextNode
  | .headerBar _ _ title => [title.text]
  | .coverTitle _ text => [text]
  | .card _ _ _ _ children _ => children.flatMap BodyNode.texts
  | .footerBar _ _ caption => [caption.text]

def BodyNode.bullets : BodyNode → List String
  | .line _ mark _ => mark.toList.map BulletMark.glyph
  | _ => []

def Box.bullets : Box → List String
  | .card _ _ _ _ children _ => children.flatMap BodyNode.bullets
  | _ => []

namespace Descriptor

def texts (d : Descriptor) : List TextNode := d.children.flatMap Box.texts

def bullets (d : Descriptor) : List String := d.children.flatMap Box.bullets

end Descriptor

/-! ## Characters on lines -/

theorem Spread.exists_line {text : List Glyph} {lines : List (List Run)} (h : Spread text lines)
    {g : Glyph} (hg : g ∈ text) : Text.isBlank g.1 = true ∨ ∃ line ∈ lines, g ∈ glyphs line := by
  induction lines generalizing text with
  | nil => exact .inl (h g hg)
  | cons line lines ih =>
    obtain ⟨gap, rest, rfl, hgap, hrest⟩ := h
    rcases List.mem_append.1 hg with hg | hg
    · exact .inl (hgap g hg)
    rcases List.mem_append.1 hg with hg | hg
    · exact .inr ⟨line, List.mem_cons_self, hg⟩
    · refine (ih hrest hg).imp_right ?_
      rintro ⟨l, hl, hmem⟩
      exact ⟨l, List.mem_cons_of_mem line hl, hmem⟩

theorem mem_chars_iff {c : Char} {rs : List Run} : c ∈ chars rs ↔ ∃ bold, (c, bold) ∈ glyphs rs := by
  rw [← map_fst_glyphs, List.mem_map]
  simp

theorem spread_layText (form : TextForm) (runs : List Run) :
    Spread (glyphs runs) (layText form runs).lines := by
  simp only [layText]
  split
  · have hkeeps := Wrapping.Keeps.start.run form.font.size form.font.bold form.limit (words runs)
    rw [List.nil_append, glyphs_words] at hkeeps
    exact hkeeps.finish.1
  · exact ⟨[], [], by simp, isGap_nil, isGap_nil⟩

section Shown

variable {c : Char} {form : TextForm} {runs : List Run}

def TextNode.shown (t : TextNode) : List Char := chars t.lines.flatten

theorem mem_of_mem_shown (h : c ∈ (layText form runs).shown) : c ∈ chars runs := by
  obtain ⟨r, hr, hc⟩ := List.mem_flatMap.1 h
  obtain ⟨line, hline, hr⟩ := List.mem_flatten.1 hr
  obtain ⟨bold, hglyph⟩ := mem_chars_iff.1 (List.mem_flatMap_of_mem hr hc)
  exact mem_chars_iff.2 ⟨bold, (spread_layText form runs).mem hline hglyph⟩

theorem mem_shown (h : c ∈ chars runs) (hletter : Text.isBlank c = false) :
    c ∈ (layText form runs).shown := by
  obtain ⟨bold, hglyph⟩ := mem_chars_iff.1 h
  rcases (spread_layText form runs).exists_line hglyph with hblank | ⟨line, hline, hmem⟩
  · rw [hletter] at hblank
    cases hblank
  · obtain ⟨r, hr, hc⟩ := List.mem_flatMap.1 (mem_chars_iff.2 ⟨bold, hmem⟩)
    exact List.mem_flatMap_of_mem (List.mem_flatten_of_mem hline hr) hc

end Shown

/-! ## Texts of a slide -/

def TextNode.IsLaid (theme : Theme) (t : TextNode) : Prop :=
  ∃ form, t = layText form t.runs ∧ form.font.family ∈ theme.families

section Blocks

variable (theme : Theme) (style : LayoutStyle) (bodySize y width : Float32)

theorem runs_layBlock (b : Block) :
    (layBlock theme style bodySize y width b).texts.flatMap TextNode.runs = b.runs := by
  cases b with
  | heading level runs => exact List.append_nil runs
  | text runs bullet => exact List.append_nil runs
  | table rows =>
    exact flatMap_texts_layTable theme style bodySize width (f := TextNode.runs)
      (g := fun _ => Cell.runs) (fun _ _ _ _ => rfl) y rows

theorem isLaid_layBlock (b : Block) :
    ∀ t ∈ (layBlock theme style bodySize y width b).texts, t.IsLaid theme := by
  have hbody : theme.typography.body.fontFamily ∈ theme.families := by simp [Theme.families]
  cases b with
  | heading level runs => exact List.forall_mem_singleton.2 ⟨_, rfl, hbody⟩
  | text runs bullet => exact List.forall_mem_singleton.2 ⟨_, rfl, hbody⟩
  | table rows =>
    obtain ⟨form, hrows⟩ := rows_layTable theme style bodySize width y rows
    intro t ht
    obtain ⟨row, hrow, ht⟩ := List.mem_flatMap.1 ht
    have hmem : row.texts ∈ rows.map fun r => (rowTexts theme style form r).map Prod.snd := by
      rw [← hrows]
      exact List.mem_map_of_mem hrow
    obtain ⟨r, -, htexts⟩ := List.mem_map.1 hmem
    rw [← htexts] at ht
    obtain ⟨p, hp, rfl⟩ := List.mem_map.1 ht
    obtain ⟨i, hi, rfl⟩ := List.mem_mapIdx.1 hp
    exact ⟨_, rfl, hbody⟩

theorem bullets_layBlock (b : Block) :
    ∀ g ∈ (layBlock theme style bodySize y width b).bullets, g = style.bulletGlyph := by
  cases b with
  | heading level runs => simp [layBlock, BodyNode.bullets]
  | text runs bullet =>
    simp only [layBlock, BodyNode.bullets, bulletMark?]
    split <;> simp
  | table rows => simp [layBlock, BodyNode.bullets]

theorem mem_layBlocks {gap : Float32} {blocks : List Block} {n : BodyNode}
    (h : n ∈ (layBlocks theme style bodySize gap width y blocks).1) :
    ∃ b ∈ blocks, ∃ y', n = layBlock theme style bodySize y' width b := by
  induction blocks generalizing y with
  | nil => cases h
  | cons b blocks ih =>
    rcases List.mem_cons.1 h with rfl | h
    · exact ⟨b, List.mem_cons_self, y, rfl⟩
    · obtain ⟨b', hb, hn⟩ := ih _ h
      exact ⟨b', List.mem_cons_of_mem b hb, hn⟩

end Blocks

section Descriptors

variable (slide : Slide) (theme : Theme) (canvas : Canvas) (style : LayoutStyle)

theorem barText_isLaid {text : TextStyle} (h : text.fontFamily ∈ theme.families) (regions : Regions)
    (limit : Float32) (wrap : Bool) (content : String) :
    (barText text regions style limit wrap content).IsLaid theme := ⟨_, rfl, h⟩

theorem texts_describe : ∃ title caption bodySize gap width,
    let nodes := (layBlocks theme style bodySize gap width 0 slide.blocks).1
    (describe slide theme canvas style).texts = title :: (nodes.flatMap BodyNode.texts ++ [caption]) ∧
      (describe slide theme canvas style).bullets = nodes.flatMap BodyNode.bullets ∧
      (title.runs = [.plain slide.displayTitle] ∧ title.IsLaid theme) ∧
      caption.runs = [.plain style.footerCaption] ∧ caption.IsLaid theme := by
  have hheader : theme.typography.header.fontFamily ∈ theme.families := by simp [Theme.families]
  have hfooter : theme.typography.footer.fontFamily ∈ theme.families := by simp [Theme.families]
  unfold describe Descriptor.texts Descriptor.bullets card
  cases theme.isCover
  · exact ⟨_, _, _, _, _, rfl, (List.append_nil _), ⟨rfl, barText_isLaid _ _ hheader ..⟩, rfl,
      barText_isLaid _ _ hfooter ..⟩
  · exact ⟨_, _, _, _, _, rfl, (List.append_nil _), ⟨rfl, barText_isLaid _ _ hheader ..⟩, rfl,
      barText_isLaid _ _ hfooter ..⟩

theorem runs_describe : (describe slide theme canvas style).texts.flatMap TextNode.runs =
    slide.runs ++ [.plain style.footerCaption] := by
  obtain ⟨title, caption, bodySize, gap, width, htexts, -, ⟨htitle, -⟩, hcaption, -⟩ :=
    texts_describe slide theme canvas style
  have hnodes := flatMap_layBlocks theme style bodySize gap width
    (f := fun n => n.texts.flatMap TextNode.runs)
    (fun y b => runs_layBlock theme style bodySize y width b) 0 slide.blocks
  rw [htexts, List.flatMap_cons, List.flatMap_append, List.flatMap_assoc, hnodes, htitle,
    List.flatMap_singleton, hcaption]
  rfl

theorem isLaid_describe : ∀ t ∈ (describe slide theme canvas style).texts, t.IsLaid theme := by
  obtain ⟨title, caption, bodySize, gap, width, htexts, -, ⟨-, htitle⟩, -, hcaption⟩ :=
    texts_describe slide theme canvas style
  rw [htexts]
  refine List.forall_mem_cons.2 ⟨htitle, List.forall_mem_append.2 ⟨fun t ht => ?_, ?_⟩⟩
  · obtain ⟨n, hn, ht⟩ := List.mem_flatMap.1 ht
    obtain ⟨b, -, y, rfl⟩ := mem_layBlocks theme style bodySize 0 width hn
    exact isLaid_layBlock theme style bodySize y width b t ht
  · exact List.forall_mem_singleton.2 hcaption

theorem bullets_describe :
    ∀ g ∈ (describe slide theme canvas style).bullets, g = style.bulletGlyph := by
  obtain ⟨-, -, bodySize, gap, width, -, hbullets, -⟩ := texts_describe slide theme canvas style
  rw [hbullets]
  intro g hg
  obtain ⟨n, hn, hg⟩ := List.mem_flatMap.1 hg
  obtain ⟨b, -, y, rfl⟩ := mem_layBlocks theme style bodySize 0 width hn
  exact bullets_layBlock theme style bodySize y width b g hg

variable {slide theme canvas style} {c : Char}

theorem mem_of_shown_describe {t : TextNode} (ht : t ∈ (describe slide theme canvas style).texts)
    (h : c ∈ t.shown) : c ∈ chars slide.runs ∨ c ∈ style.footerCaption.toList := by
  obtain ⟨form, hform, -⟩ := isLaid_describe slide theme canvas style t ht
  rw [hform] at h
  obtain ⟨r, hr, hc⟩ := List.mem_flatMap.1 (mem_of_mem_shown h)
  have hrun : r ∈ slide.runs ++ [.plain style.footerCaption] := by
    rw [← runs_describe slide theme canvas style]
    exact List.mem_flatMap_of_mem ht hr
  rcases List.mem_append.1 hrun with hrun | hrun
  · exact .inl (List.mem_flatMap_of_mem hrun hc)
  · rw [List.mem_singleton.1 hrun] at hc
    exact .inr hc

theorem exists_shown_describe (h : c ∈ chars slide.runs) (hletter : Text.isBlank c = false) :
    ∃ t ∈ (describe slide theme canvas style).texts, c ∈ t.shown := by
  obtain ⟨r, hr, hc⟩ := List.mem_flatMap.1 h
  have hrun : r ∈ (describe slide theme canvas style).texts.flatMap TextNode.runs := by
    rw [runs_describe]
    exact List.mem_append_left _ hr
  obtain ⟨t, ht, hrun⟩ := List.mem_flatMap.1 hrun
  obtain ⟨form, hform, -⟩ := isLaid_describe slide theme canvas style t ht
  refine ⟨t, ht, ?_⟩
  rw [hform]
  exact mem_shown (List.mem_flatMap_of_mem hrun hc) hletter

end Descriptors

end Layout

end SlideDeck
