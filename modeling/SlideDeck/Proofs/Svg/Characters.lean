import SlideDeck.Proofs.Layout.Texts
import SlideDeck.Proofs.Svg.Picture
import SlideDeck.Proofs.Theme.Color
import SlideDeck.Svg.Bitmap

/-! Which characters a picture has that no document can hold. Escaping lets them through, and nothing
else that is drawn has any, so they are those of its words and of the families of its fonts. -/

namespace SlideDeck.Svg

/-- The characters that XML 1.0 allows in a document. -/
def IsXmlChar (c : Char) : Prop :=
  c = '\t' ∨ c = '\n' ∨ c = '\r' ∨ (0x20 ≤ c.toNat ∧ c.toNat ≤ 0xD7FF) ∨
    (0xE000 ≤ c.toNat ∧ c.toNat ≤ 0xFFFD) ∨ (0x10000 ≤ c.toNat ∧ c.toNat ≤ 0x10FFFF)

instance : DecidablePred IsXmlChar := fun _ => inferInstanceAs (Decidable (_ ∨ _))

def IsXmlText (s : String) : Prop := ∀ c ∈ s.toList, IsXmlChar c

-- By the characters of the text: the search may find an instance that goes through all characters.
instance : DecidablePred IsXmlText := fun s => List.decidableBAll IsXmlChar s.toList

def Occurs (c : Char) (ss : List String) : Prop := ∃ s ∈ ss, c ∈ s.toList

section Chars

variable {c : Char}

theorem isMarkupChar_iff : isMarkupChar c = true ↔ IsXmlChar c := by
  have hvalid : c.toNat < 0xD800 ∨ (0xDFFF < c.toNat ∧ c.toNat < 0x110000) := c.valid
  have hfffe : c = '\uFFFE' ↔ c.toNat = 0xFFFE := Char.toNat_inj.symm
  have hffff : c = '\uFFFF' ↔ c.toNat = 0xFFFF := Char.toNat_inj.symm
  have htab : c = '\t' ↔ c.toNat = 9 := Char.toNat_inj.symm
  have hline : c = '\n' ↔ c.toNat = 10 := Char.toNat_inj.symm
  have hreturn : c = '\r' ↔ c.toNat = 13 := Char.toNat_inj.symm
  unfold isMarkupChar IsXmlChar
  split
  · simp only [Bool.or_eq_true, decide_eq_true_eq, htab, hline, hreturn]
    omega
  · simp only [Bool.and_eq_true, decide_eq_true_eq, ne_eq, hfffe, hffff, htab, hline, hreturn]
    omega

theorem isXmlChar_of_le (hlow : ' ' ≤ c) (hhigh : c ≤ '~') : IsXmlChar c := by
  have hmin : 0x20 ≤ c.toNat := hlow
  have hmax : c.toNat ≤ 0x7E := hhigh
  exact .inr (.inr (.inr (.inl ⟨hmin, by omega⟩)))

theorem isXmlChar_of_isDigit (h : c.isDigit = true) : IsXmlChar c := by
  obtain ⟨hlow, hhigh⟩ := Char.isDigit_iff_toNat.1 h
  exact isXmlChar_of_le (Char.le_trans (by decide) hlow) (Char.le_trans hhigh (by decide))

theorem isXmlChar_of_isAlpha (h : c.isAlpha = true) : IsXmlChar c := by
  rcases (Bool.or_eq_true c.isUpper c.isLower).mp h with h | h
  · obtain ⟨hlow, hhigh⟩ : 'A' ≤ c ∧ c ≤ 'Z' := of_decide_eq_true h
    exact isXmlChar_of_le (Char.le_trans (by decide) hlow) (Char.le_trans hhigh (by decide))
  · obtain ⟨hlow, hhigh⟩ := Bool.and_eq_true_iff.1 h
    have hlow : 'a' ≤ c := of_decide_eq_true hlow
    have hhigh : c ≤ 'z' := of_decide_eq_true hhigh
    exact isXmlChar_of_le (Char.le_trans (by decide) hlow) (Char.le_trans hhigh (by decide))

theorem isXmlChar_of_isNameChar (h : isNameChar c = true) : IsXmlChar c := by
  simp only [isNameChar, Bool.or_eq_true, beq_iff_eq] at h
  obtain (halpha | rfl) | rfl := h
  · exact isXmlChar_of_isAlpha halpha
  · decide
  · decide

theorem ne_of_isXmlChar {x : Char} (hc : ¬IsXmlChar c) (hx : IsXmlChar x) : c ≠ x := by
  rintro rfl
  exact hc hx

theorem mem_escape_iff (hc : ¬IsXmlChar c) {cs : List Char} : c ∈ escape cs ↔ c ∈ cs := by
  have hentities : ∀ e ∈ entities, IsXmlChar e.1 ∧ IsXmlText (.ofList e.2) := by decide
  have hchar (x : Char) : c ∈ escapeChar x ↔ c = x := by
    rcases escapeChar_cases x with hentity | ⟨-, hself⟩
    · obtain ⟨hx, hwritten⟩ := hentities _ hentity
      constructor
      · exact fun hmem => absurd (hwritten c (by rwa [String.toList_ofList])) hc
      · rintro rfl
        exact absurd hx hc
    · rw [hself, List.mem_singleton]
  simp [escape, hchar]

end Chars

section Occurs

variable {c : Char}

@[simp] theorem occurs_nil : ¬Occurs c [] := by simp [Occurs]

@[simp] theorem occurs_cons {s : String} {ss : List String} :
    Occurs c (s :: ss) ↔ c ∈ s.toList ∨ Occurs c ss := by simp [Occurs]

@[simp] theorem occurs_append {ss ts : List String} :
    Occurs c (ss ++ ts) ↔ Occurs c ss ∨ Occurs c ts := by
  simp [Occurs, or_and_right, exists_or]

theorem occurs_flatMap {α : Type} {f : α → List String} {xs : List α} :
    Occurs c (xs.flatMap f) ↔ ∃ x ∈ xs, Occurs c (f x) := by
  simp only [Occurs, List.mem_flatMap]
  tauto

end Occurs

/-! ## Elements -/

namespace Element

mutual

def values : Element → List String
  | .leaf _ attributes => attributes.map Prod.snd
  | .node _ attributes children => attributes.map Prod.snd ++ valuesOfAll children
  | .text _ => []

def valuesOfAll : List Element → List String
  | [] => []
  | e :: es => values e ++ valuesOfAll es

end

theorem valuesOfAll_append (es fs : List Element) :
    valuesOfAll (es ++ fs) = valuesOfAll es ++ valuesOfAll fs := by
  induction es with
  | nil => rfl
  | cons e es ih => rw [List.cons_append, valuesOfAll, ih, ← List.append_assoc, valuesOfAll]

section Written

variable {c : Char} {tag : String} {attributes : List (String × String)}

theorem not_mem_name (hc : ¬IsXmlChar c) (h : isName tag.toList = true) : c ∉ tag.toList :=
  fun hmem => hc (isXmlChar_of_isNameChar (Place.isNameChar_of_isName h c hmem))

theorem mem_openTag_iff (hc : ¬IsXmlChar c) (h : Place.ValidNames tag (attributes.map Prod.fst)) :
    c ∈ openTag tag attributes ↔ Occurs c (attributes.map Prod.snd) := by
  have hopen : c ≠ '<' := ne_of_isXmlChar hc (by decide)
  have hspace : c ≠ ' ' := ne_of_isXmlChar hc (by decide)
  have hequals : c ≠ '=' := ne_of_isXmlChar hc (by decide)
  have hquote : c ≠ '"' := ne_of_isXmlChar hc (by decide)
  obtain ⟨htag, hnames, -⟩ := h
  have hattribute : ∀ a ∈ attributes, (c ∈ attributeText a ↔ c ∈ a.2.toList) := by
    intro a ha
    have hname := not_mem_name hc (hnames a.1 (List.mem_map_of_mem ha))
    simp [attributeText, hspace, hequals, hquote, hname, mem_escape_iff hc]
  simp only [openTag, List.mem_cons, List.mem_append, List.mem_flatMap, hopen, not_mem_name hc htag,
    false_or, Occurs, List.mem_map, exists_exists_and_eq_and]
  exact exists_congr fun a => and_congr_right (hattribute a)

theorem mem_charsOfAll_iff {es : List Element}
    (h : ∀ e ∈ es, (c ∈ e.chars ↔ Occurs c e.texts ∨ Occurs c e.values)) :
    c ∈ charsOfAll es ↔ Occurs c (textsOfAll es) ∨ Occurs c (valuesOfAll es) := by
  induction es with
  | nil => simp [charsOfAll, textsOfAll, valuesOfAll]
  | cons e es ih =>
    obtain ⟨he, hes⟩ := List.forall_mem_cons.1 h
    rw [charsOfAll, List.mem_append, he, ih hes, textsOfAll, valuesOfAll, occurs_append, occurs_append]
    tauto

theorem mem_chars_iff (hc : ¬IsXmlChar c) {e : Element} (h : e.Readable) :
    c ∈ e.chars ↔ Occurs c e.texts ∨ Occurs c e.values := by
  have hopen : c ≠ '<' := ne_of_isXmlChar hc (by decide)
  have hslash : c ≠ '/' := ne_of_isXmlChar hc (by decide)
  have hclose : c ≠ '>' := ne_of_isXmlChar hc (by decide)
  induction h with
  | leaf names => simp [chars, texts, values, mem_openTag_iff hc names, hslash, hclose]
  | words names s =>
    simp [chars, charsOfAll, texts, textsOfAll, values, valuesOfAll, mem_openTag_iff hc names,
      mem_escape_iff hc, not_mem_name hc names.1, hopen, hslash, hclose, or_comm]
  | node names inside ih =>
    simp only [chars, texts, values, List.mem_append, List.mem_cons, mem_openTag_iff hc names,
      mem_charsOfAll_iff ih, not_mem_name hc names.1, hopen, hslash, hclose, occurs_append]
    tauto

end Written

end Element

/-! ## Values -/

theorem isXmlText_append {s t : String} : IsXmlText (s ++ t) ↔ IsXmlText s ∧ IsXmlText t := by
  rw [IsXmlText, String.toList_append, List.forall_mem_append, IsXmlText, IsXmlText]

@[simp] theorem isXmlText_num (x : Float32) : IsXmlText (num x) := by
  have hdigits (n : Nat) : ∀ c ∈ Decimal.digitText n, IsXmlChar c := fun c hc =>
    isXmlChar_of_isDigit (Nat.isDigit_of_mem_toDigits (by decide) (by decide) hc)
  have hpoint : IsXmlChar '.' := by decide
  have hzero : IsXmlChar '0' := by decide
  have hminus : IsXmlChar '-' := by decide
  have hhundredths (n : Nat) : ∀ c ∈ Decimal.hundredths n, IsXmlChar c := by
    rw [Decimal.hundredths]
    refine List.forall_mem_append.2 ⟨hdigits _, List.forall_mem_cons.2 ⟨hpoint, ?_⟩⟩
    split
    · exact List.forall_mem_cons.2 ⟨hzero, hdigits _⟩
    · exact hdigits _
  unfold num Decimal.twoPlaces
  split
  · decide
  · split <;> decide
  · rw [IsXmlText, String.toList_ofList]
    refine List.forall_mem_append.2 ⟨?_, hhundredths _⟩
    split
    · exact List.forall_mem_singleton.2 hminus
    · exact List.forall_mem_nil _

@[simp] theorem isXmlText_toHex (color : Color) : IsXmlText color.toHex := by
  have hsign : IsXmlChar '#' := by decide
  have hdigits : ∀ d < 16, IsXmlChar (Nat.digitChar d) := by decide
  have hchannel (n : UInt8) : ∀ c ∈ Color.channelText n, IsXmlChar c := by
    have hn := n.toNat_lt
    rw [Color.channelText_eq]
    refine List.forall_mem_cons.2 ⟨hdigits _ (by omega), List.forall_mem_singleton.2 ?_⟩
    exact hdigits _ (by omega)
  rw [IsXmlText, Color.toHex, String.toList_ofList]
  exact List.forall_mem_cons.2 ⟨hsign, List.forall_mem_append.2
    ⟨List.forall_mem_append.2 ⟨hchannel _, hchannel _⟩, hchannel _⟩⟩

structure IsPlain (es : List Element) : Prop where
  values : ∀ v ∈ Element.valuesOfAll es, IsXmlText v

namespace IsPlain

variable {es fs : List Element} {attributes : List (String × String)} {t : Layout.TextNode}

theorem nil : IsPlain [] := ⟨List.forall_mem_nil _⟩

theorem append (h : IsPlain es) (h' : IsPlain fs) : IsPlain (es ++ fs) where
  values := by
    rw [Element.valuesOfAll_append]
    exact List.forall_mem_append.2 ⟨h.values, h'.values⟩

theorem cons {e : Element} (h : IsPlain [e]) (h' : IsPlain es) : IsPlain (e :: es) := h.append h'

theorem flatMap {α : Type} {f : α → List Element} {xs : List α} (h : ∀ x ∈ xs, IsPlain (f x)) :
    IsPlain (xs.flatMap f) := by
  induction xs with
  | nil => exact nil
  | cons x xs ih =>
    obtain ⟨hx, hxs⟩ := List.forall_mem_cons.1 h
    exact hx.append (ih hxs)

theorem leaf {tag : String} (h : ∀ a ∈ attributes, IsXmlText a.2) :
    IsPlain [.leaf tag attributes] where
  values := by
    rw [Element.valuesOfAll, Element.valuesOfAll, List.append_nil, Element.values]
    exact List.forall_mem_map.2 h

theorem node {tag : String} (h : ∀ a ∈ attributes, IsXmlText a.2) (h' : IsPlain es) :
    IsPlain [.node tag attributes es] where
  values := by
    rw [Element.valuesOfAll, Element.valuesOfAll, List.append_nil, Element.values]
    exact List.forall_mem_append.2 ⟨List.forall_mem_map.2 h, h'.values⟩

theorem text (s : String) : IsPlain [.text s] := ⟨List.forall_mem_nil _⟩

theorem span (bold : Bool) (run : Run) : IsPlain [Svg.span bold run] := by
  have hbold : IsXmlText "bold" := by decide
  refine node ?_ (text run.text)
  split
  · exact List.forall_mem_singleton.2 hbold
  · exact List.forall_mem_nil _

theorem linesFrom (hfamily : IsXmlText t.font.family) (x top : Float32) (index : Nat)
    (lines : List (List Run)) : IsPlain (Svg.linesFrom x top t index lines) := by
  have hbold : IsXmlText "bold" := by decide
  have hnormal : IsXmlText "normal" := by decide
  have hpreserve : IsXmlText "preserve" := by decide
  induction lines generalizing index with
  | nil => exact nil
  | cons line rest ih =>
    unfold Svg.linesFrom
    split
    · exact ih (index + 1)
    · refine cons (node ?_ ?_) (ih (index + 1))
      · cases t.font.bold <;> simp [place, fontAttributes, hfamily, hbold, hnormal, hpreserve]
      · rw [List.map_eq_flatMap]
        exact flatMap fun run _ => span t.font.bold run

theorem filledRect (x y : Float32) (frame : Rect) (radius : Float32) (fill : Color) :
    IsPlain [Svg.filledRect x y frame radius fill] :=
  leaf (by simp [place, extent])

theorem filledRects (x y : Float32) (frame : Rect) (radius : Float32) (fill : Option Color) :
    IsPlain (fill.toList.map (Svg.filledRect x y frame radius)) := by
  cases fill with
  | none => exact nil
  | some color => exact filledRect x y frame radius color

theorem bullet (hfamily : IsXmlText t.font.family) (x y : Float32) (mark : Layout.BulletMark) :
    IsPlain [Svg.bullet x y mark t] :=
  node (by simp [place, fontAttributes, hfamily]) (text mark.glyph)

theorem cell {c : Layout.TextBox} (hfamily : IsXmlText c.text.font.family) (x y padding : Float32)
    (border : Color) : IsPlain (Svg.cell x y padding border c) := by
  have hnone : IsXmlText "none" := by decide
  have hone : IsXmlText "1" := by decide
  refine cons (leaf ?_) (linesFrom hfamily ..)
  simp [place, extent, hnone, hone]

theorem tableRow {row : Layout.RowNode} (h : ∀ t ∈ row.texts, IsXmlText t.font.family)
    (x y : Float32) (table : Layout.TableNode) : IsPlain (Svg.tableRow x y table row) :=
  append (filledRects ..) (flatMap fun _ hc => cell (h _ (List.mem_map_of_mem hc)) ..)

theorem bodyNode {n : Layout.BodyNode} (h : ∀ t ∈ n.texts, IsXmlText t.font.family) (x y : Float32) :
    IsPlain (Svg.bodyNode x y n) := by
  cases n with
  | heading level frame t => exact linesFrom (h t List.mem_cons_self) ..
  | line frame mark t =>
    have hfamily := h t List.mem_cons_self
    cases mark with
    | none => exact linesFrom hfamily ..
    | some mark => exact cons (bullet hfamily ..) (linesFrom hfamily ..)
  | table node =>
    exact flatMap fun row hrow => tableRow (fun t ht => h t (List.mem_flatMap_of_mem hrow ht)) ..

theorem box {b : Layout.Box} (h : ∀ t ∈ b.texts, IsXmlText t.font.family) : IsPlain (Svg.box b) := by
  cases b with
  | headerBar frame fill title =>
    exact cons (filledRect ..) (linesFrom (h title.text List.mem_cons_self) ..)
  | coverTitle frame t => exact linesFrom (h t List.mem_cons_self) ..
  | card frame fill radius content children overflow =>
    refine append (filledRects ..) (flatMap fun n hn => ?_)
    exact bodyNode (fun t ht => h t (List.mem_flatMap_of_mem hn ht)) ..
  | footerBar frame fill caption =>
    exact cons (filledRect ..) (linesFrom (h caption.text List.mem_cons_self) ..)

theorem picture {d : Layout.Descriptor} (h : ∀ t ∈ d.texts, IsXmlText t.font.family) :
    IsPlain [Svg.picture d] := by
  have hlink : IsXmlText "http://www.w3.org/2000/svg" := by decide
  have hwhole : IsXmlText "100%" := by decide
  have hview : IsXmlText ("0 0 " ++ num d.width ++ " " ++ num d.height) := by
    have hfront : IsXmlText "0 0 " := by decide
    have hspace : IsXmlText " " := by decide
    rw [isXmlText_append, isXmlText_append, isXmlText_append]
    exact ⟨⟨⟨hfront, isXmlText_num d.width⟩, hspace⟩, isXmlText_num d.height⟩
  refine node ?_ (cons (leaf ?_) (flatMap fun b hb => box fun t ht => ?_))
  · simpa [extent, hlink] using hview
  · simp [hwhole]
  · exact h t (List.mem_flatMap_of_mem hb ht)

end IsPlain

/-! ## Words -/

section Words

variable {c : Char}

theorem occurs_textWords {t : Layout.TextNode} : Occurs c (textWords t) ↔ c ∈ t.shown := by
  simp only [Occurs, textWords, Layout.TextNode.shown, Layout.chars, List.mem_map, List.mem_flatMap,
    exists_exists_and_eq_and]

theorem occurs_flatMap_words {α : Type} {words bullets : α → List String}
    {texts : α → List Layout.TextNode}
    (h : ∀ x, Occurs c (words x) ↔ Occurs c (bullets x) ∨ ∃ t ∈ texts x, c ∈ t.shown) (xs : List α) :
    Occurs c (xs.flatMap words) ↔
      Occurs c (xs.flatMap bullets) ∨ ∃ t ∈ xs.flatMap texts, c ∈ t.shown := by
  induction xs with
  | nil => simp
  | cons x xs ih =>
    simp only [List.flatMap_cons, occurs_append, h, ih, List.mem_append, or_and_right, exists_or]
    exact or_or_or_comm

theorem occurs_nodeWords {n : Layout.BodyNode} :
    Occurs c (nodeWords n) ↔ Occurs c n.bullets ∨ ∃ t ∈ n.texts, c ∈ t.shown := by
  cases n with
  | heading level frame t =>
    simp [nodeWords, Layout.BodyNode.bullets, Layout.BodyNode.texts, occurs_textWords]
  | line frame mark t =>
    simp [nodeWords, Layout.BodyNode.bullets, Layout.BodyNode.texts, occurs_textWords]
  | table node =>
    simp only [nodeWords, Layout.BodyNode.bullets, Layout.BodyNode.texts, Layout.RowNode.texts,
      occurs_flatMap, occurs_textWords, occurs_nil, false_or, List.mem_flatMap, List.mem_map]
    constructor
    · rintro ⟨row, hrow, cell, hcell, hmem⟩
      exact ⟨cell.text, ⟨row, hrow, cell, hcell, rfl⟩, hmem⟩
    · rintro ⟨t, ⟨row, hrow, cell, hcell, rfl⟩, hmem⟩
      exact ⟨row, hrow, cell, hcell, hmem⟩

theorem occurs_boxWords {b : Layout.Box} :
    Occurs c (boxWords b) ↔ Occurs c b.bullets ∨ ∃ t ∈ b.texts, c ∈ t.shown := by
  cases b with
  | headerBar frame fill title =>
    simp [boxWords, Layout.Box.bullets, Layout.Box.texts, occurs_textWords]
  | coverTitle frame t => simp [boxWords, Layout.Box.bullets, Layout.Box.texts, occurs_textWords]
  | card frame fill radius content children overflow =>
    exact occurs_flatMap_words (fun _ => occurs_nodeWords) children
  | footerBar frame fill caption =>
    simp [boxWords, Layout.Box.bullets, Layout.Box.texts, occurs_textWords]

theorem mem_render_iff (hc : ¬IsXmlChar c) {d : Layout.Descriptor}
    (hfamilies : ∀ t ∈ d.texts, IsXmlText t.font.family) :
    c ∈ (render d).toList ↔ Occurs c d.bullets ∨ ∃ t ∈ d.texts, c ∈ t.shown := by
  have hshown := Shows.picture d
  have hreadable := hshown.readable (picture d) List.mem_cons_self
  have htexts : (picture d).texts = d.children.flatMap boxWords := by
    rw [← hshown.texts, Element.textsOfAll, Element.textsOfAll, List.append_nil]
  have hvalues : ¬Occurs c (picture d).values := by
    rintro ⟨v, hv, hmem⟩
    refine hc ((IsPlain.picture hfamilies).values v ?_ c hmem)
    rwa [Element.valuesOfAll, Element.valuesOfAll, List.append_nil]
  rw [render, Element.render, String.toList_ofList, Element.mem_chars_iff hc hreadable, htexts,
    or_iff_left hvalues]
  exact occurs_flatMap_words (fun _ => occurs_boxWords) d.children

end Words

/-! ## Loading -/

theorem badChar?_cases (line column : Nat) (cs : List Char) :
    ((∀ c ∈ cs, IsXmlChar c) ∧ badChar? line column cs = none) ∨
      ∃ c ∈ cs, ¬IsXmlChar c ∧
        ∃ line' column', badChar? line column cs = some (.badChar c line' column') := by
  induction cs generalizing line column with
  | nil => exact .inl ⟨List.forall_mem_nil _, rfl⟩
  | cons c cs ih =>
    by_cases hc : IsXmlChar c
    · have hnext : ∃ line' column', badChar? line column (c :: cs) = badChar? line' column' cs := by
        simp only [badChar?, isMarkupChar_iff.2 hc, Bool.not_true, Bool.false_eq_true, if_false]
        split
        · exact ⟨line + 1, 1, rfl⟩
        · exact ⟨line, column + 1, rfl⟩
      obtain ⟨line', column', hnext⟩ := hnext
      rw [hnext]
      rcases ih line' column' with ⟨hall, hnone⟩ | ⟨x, hmem, hx⟩
      · exact .inl ⟨List.forall_mem_cons.2 ⟨hc, hall⟩, hnone⟩
      · exact .inr ⟨x, List.mem_cons_of_mem c hmem, hx⟩
    · have hmark : isMarkupChar c = false := by
        rw [Bool.eq_false_iff]
        exact fun h => hc (isMarkupChar_iff.1 h)
      have hsome : badChar? line column (c :: cs) = some (.badChar c line column) := by
        rw [badChar?, hmark]
        rfl
      exact .inr ⟨c, List.mem_cons_self, hc, line, column, hsome⟩

end SlideDeck.Svg
