import SlideDeck.Proofs.Svg.Reader
import SlideDeck.Svg.Slide

/-! The picture of a slide is a single element that is read back, and which elements and attributes
are in it follows from the shape of the slide: its boxes and nodes, its lines and how many runs are
in each, which text is bold, and what has a fill or a bullet. Texts, families and glyphs are data
for it, whatever characters they have. -/

namespace SlideDeck.Svg

/-- The tags in the order in which they are opened, with the names of their attributes. -/
abbrev Outline := List (String × List String)

namespace Element

mutual

def outline : Element → Outline
  | .leaf tag attributes => [(tag, attributes.map Prod.fst)]
  | .node tag attributes children => (tag, attributes.map Prod.fst) :: outlineOfAll children
  | .text _ => []

def outlineOfAll : List Element → Outline
  | [] => []
  | e :: es => outline e ++ outlineOfAll es

end

mutual

def texts : Element → List String
  | .leaf _ _ => []
  | .node _ _ children => textsOfAll children
  | .text s => [s]

def textsOfAll : List Element → List String
  | [] => []
  | e :: es => texts e ++ textsOfAll es

end

theorem outlineOfAll_append (es fs : List Element) :
    outlineOfAll (es ++ fs) = outlineOfAll es ++ outlineOfAll fs := by
  induction es with
  | nil => rfl
  | cons e es ih => rw [List.cons_append, outlineOfAll, ih, ← List.append_assoc, outlineOfAll]

theorem textsOfAll_append (es fs : List Element) :
    textsOfAll (es ++ fs) = textsOfAll es ++ textsOfAll fs := by
  induction es with
  | nil => rfl
  | cons e es ih => rw [List.cons_append, textsOfAll, ih, ← List.append_assoc, textsOfAll]

mutual

theorem outline_tidied (e : Element) : outlineOfAll e.tidied = e.outline := by
  cases e with
  | leaf tag attributes => rfl
  | node tag attributes children =>
    rw [tidied, outlineOfAll, outline, outline_tidiedAll, outlineOfAll, List.append_nil, outline]
  | text s =>
    unfold tidied
    split <;> rfl

theorem outline_tidiedAll (es : List Element) : outlineOfAll (tidiedAll es) = outlineOfAll es := by
  cases es with
  | nil => rfl
  | cons e es => rw [tidiedAll, outlineOfAll_append, outline_tidied, outline_tidiedAll, outlineOfAll]

end

mutual

theorem texts_tidied (e : Element) : textsOfAll e.tidied = e.texts.filter (!·.isEmpty) := by
  cases e with
  | leaf tag attributes => rfl
  | node tag attributes children =>
    rw [tidied, textsOfAll, texts, texts_tidiedAll, textsOfAll, List.append_nil, texts]
  | text s =>
    cases h : s.isEmpty
    · simp [tidied, texts, textsOfAll, h]
    · simp [tidied, texts, textsOfAll, h]

theorem texts_tidiedAll (es : List Element) :
    textsOfAll (tidiedAll es) = (textsOfAll es).filter (!·.isEmpty) := by
  cases es with
  | nil => rfl
  | cons e es =>
    rw [tidiedAll, textsOfAll_append, texts_tidied, texts_tidiedAll, textsOfAll, List.filter_append]

end

end Element

/-- Text without its words: for each run of each line whether it is bold. -/
structure TextShape where
  bold : Bool
  lines : List (List Bool)

inductive NodeShape
  | heading (text : TextShape)
  | line (bullet : Bool) (text : TextShape)
  | table (rows : List (Bool × List TextShape))

inductive BoxShape
  | bar (text : TextShape)
  | coverTitle (text : TextShape)
  | card (filled : Bool) (nodes : List NodeShape)

def TextShape.of (t : Layout.TextNode) : TextShape := ⟨t.font.bold, t.lines.map (·.map Run.bold)⟩

def NodeShape.of : Layout.BodyNode → NodeShape
  | .heading _ _ text => .heading (.of text)
  | .line _ mark text => .line mark.isSome (.of text)
  | .table node => .table (node.rows.map fun r => (r.fill.isSome, r.cells.map (.of ·.text)))

def BoxShape.of : Layout.Box → BoxShape
  | .headerBar _ _ title => .bar (.of title.text)
  | .coverTitle _ text => .coverTitle (.of text)
  | .card _ fill _ _ children _ => .card fill.isSome (children.map .of)
  | .footerBar _ _ caption => .bar (.of caption.text)

def spanOutline (bold run : Bool) : String × List String :=
  ("tspan", if run && !bold then ["font-weight"] else [])

def lineKeys : List String :=
  ["x", "y", "font-family", "font-size", "font-weight", "fill", "xml:space"]

def lineOutline (bold : Bool) (line : List Bool) : Outline :=
  if line.isEmpty then [] else ("text", lineKeys) :: line.map (spanOutline bold)

def TextShape.outline (s : TextShape) : Outline := s.lines.flatMap (lineOutline s.bold)

def fillOutline (filled : Bool) : Outline :=
  if filled then [("rect", ["x", "y", "width", "height", "rx", "ry", "fill"])] else []

def cellKeys : List String := ["x", "y", "width", "height", "fill", "stroke", "stroke-width"]

def cellOutline (text : TextShape) : Outline := ("rect", cellKeys) :: text.outline

def bulletKeys : List String := ["x", "y", "font-family", "font-size", "fill"]

def bulletOutline (bullet : Bool) : Outline := if bullet then [("text", bulletKeys)] else []

def NodeShape.outline : NodeShape → Outline
  | .heading text => text.outline
  | .line bullet text => bulletOutline bullet ++ text.outline
  | .table rows => rows.flatMap fun r => fillOutline r.1 ++ r.2.flatMap cellOutline

def BoxShape.outline : BoxShape → Outline
  | .bar text => fillOutline true ++ text.outline
  | .coverTitle text => text.outline
  | .card filled nodes => fillOutline filled ++ nodes.flatMap NodeShape.outline

def slideOutline (boxes : List BoxShape) : Outline :=
  ("svg", ["xmlns", "width", "height", "viewBox"]) :: ("rect", ["width", "height", "fill"]) ::
    boxes.flatMap BoxShape.outline

def textWords (t : Layout.TextNode) : List String := t.lines.flatten.map Run.text

def nodeWords : Layout.BodyNode → List String
  | .heading _ _ text => textWords text
  | .line _ mark text => mark.toList.map Layout.BulletMark.glyph ++ textWords text
  | .table node => node.rows.flatMap fun r => r.cells.flatMap (textWords ·.text)

def boxWords : Layout.Box → List String
  | .headerBar _ _ title => textWords title.text
  | .coverTitle _ text => textWords text
  | .card _ _ _ _ children _ => children.flatMap nodeWords
  | .footerBar _ _ caption => textWords caption.text

/-- Elements that can be read back, with their outline and their texts. -/
structure Shows (es : List Element) (names : Outline) (words : List String) : Prop where
  readable : ∀ e ∈ es, e.Readable
  outline : Element.outlineOfAll es = names
  texts : Element.textsOfAll es = words

namespace Shows

variable {es fs : List Element} {names names' : Outline} {words words' : List String}

theorem nil : Shows [] [] [] := ⟨by simp, rfl, rfl⟩

theorem append (h : Shows es names words) (h' : Shows fs names' words') :
    Shows (es ++ fs) (names ++ names') (words ++ words') where
  readable e he := (List.mem_append.1 he).elim (h.readable e) (h'.readable e)
  outline := by rw [Element.outlineOfAll_append, h.outline, h'.outline]
  texts := by rw [Element.textsOfAll_append, h.texts, h'.texts]

theorem cons {e : Element} (h : Shows [e] names words) (h' : Shows es names' words') :
    Shows (e :: es) (names ++ names') (words ++ words') := h.append h'

theorem flatMap {α : Type} {f : α → List Element} {g : α → Outline} {w : α → List String}
    (h : ∀ x, Shows (f x) (g x) (w x)) (xs : List α) :
    Shows (xs.flatMap f) (xs.flatMap g) (xs.flatMap w) := by
  induction xs with
  | nil => exact nil
  | cons x xs ih =>
    rw [List.flatMap_cons, List.flatMap_cons, List.flatMap_cons]
    exact (h x).append ih

section Elements

variable {tag : String} {attributes : List (String × String)} {keys : List String}

theorem leaf (hkeys : attributes.map Prod.fst = keys) (hvalid : Place.ValidNames tag keys) :
    Shows [.leaf tag attributes] [(tag, keys)] [] := by
  subst hkeys
  refine ⟨fun e he => ?_, rfl, rfl⟩
  rw [List.mem_singleton.1 he]
  exact .leaf hvalid

theorem text (hkeys : attributes.map Prod.fst = keys) (hvalid : Place.ValidNames tag keys)
    (s : String) : Shows [.node tag attributes [.text s]] [(tag, keys)] [s] := by
  subst hkeys
  refine ⟨fun e he => ?_, rfl, rfl⟩
  rw [List.mem_singleton.1 he]
  exact .words hvalid s

theorem node (hkeys : attributes.map Prod.fst = keys) (hvalid : Place.ValidNames tag keys)
    (h : Shows es names words) : Shows [.node tag attributes es] ((tag, keys) :: names) words := by
  subst hkeys
  refine ⟨fun e he => ?_, ?_, ?_⟩
  · rw [List.mem_singleton.1 he]
    exact .node hvalid h.readable
  · rw [Element.outlineOfAll, Element.outline, h.outline, Element.outlineOfAll, List.append_nil]
  · rw [Element.textsOfAll, Element.texts, h.texts, Element.textsOfAll, List.append_nil]

end Elements

theorem span (bold : Bool) (run : Run) :
    Shows [Svg.span bold run] [spanOutline bold run.bold] [run.text] := by
  unfold Svg.span spanOutline
  cases run.bold && !bold
  · exact text rfl (by decide) _
  · exact text rfl (by decide) _

theorem spans (bold : Bool) (line : List Run) :
    Shows (line.map (Svg.span bold)) ((line.map Run.bold).map (spanOutline bold))
      (line.map Run.text) := by
  have h := flatMap (span bold) line
  rw [← List.map_eq_flatMap, ← List.map_eq_flatMap, ← List.map_eq_flatMap] at h
  rw [List.map_map]
  exact h

theorem linesFrom (x top : Float32) (t : Layout.TextNode) (index : Nat) (lines : List (List Run)) :
    Shows (Svg.linesFrom x top t index lines)
      ((lines.map (·.map Run.bold)).flatMap (lineOutline t.font.bold))
      (lines.flatten.map Run.text) := by
  -- The number of a line says only where it stands.
  induction lines generalizing index with
  | nil => exact nil
  | cons line rest ih =>
    have hrest := ih (index + 1)
    unfold Svg.linesFrom
    rw [List.map_cons, List.flatMap_cons, List.flatten_cons, List.map_append]
    by_cases hline : line = []
    · -- A line without runs has no part in the outline and no words.
      subst hline
      exact hrest
    · have hruns : line.isEmpty = false := by simp [hline]
      have hbold : lineOutline t.font.bold (line.map Run.bold) =
          ("text", lineKeys) :: (line.map Run.bold).map (spanOutline t.font.bold) := by
        simp [lineOutline, hline]
      have hvalid : Place.ValidNames "text" lineKeys := by decide
      rw [hruns, hbold]
      exact cons (node rfl hvalid (spans t.font.bold line)) hrest

theorem lines (x y height : Float32) (t : Layout.TextNode) :
    Shows (Svg.lines x y height t) (TextShape.of t).outline (textWords t) := linesFrom ..

theorem filledRect (x y : Float32) (frame : Rect) (radius : Float32) (fill : Color) :
    Shows [Svg.filledRect x y frame radius fill] (fillOutline true) [] :=
  leaf rfl (by decide)

theorem filledRects (x y : Float32) (frame : Rect) (radius : Float32) (fill : Option Color) :
    Shows (fill.toList.map (Svg.filledRect x y frame radius)) (fillOutline fill.isSome) [] := by
  cases fill with
  | none => exact nil
  | some color => exact filledRect x y frame radius color

theorem bullet (x y : Float32) (mark : Layout.BulletMark) (t : Layout.TextNode) :
    Shows [Svg.bullet x y mark t] (bulletOutline true) [mark.glyph] := by
  have hvalid : Place.ValidNames "text" bulletKeys := by decide
  exact text rfl hvalid mark.glyph

theorem cell (x y padding : Float32) (border : Color) (c : Layout.TextBox) :
    Shows (Svg.cell x y padding border c) (cellOutline (.of c.text)) (textWords c.text) := by
  have hvalid : Place.ValidNames "rect" cellKeys := by decide
  exact cons (leaf rfl hvalid) (lines ..)

theorem tableRow (x y : Float32) (table : Layout.TableNode) (row : Layout.RowNode) :
    Shows (Svg.tableRow x y table row)
      (fillOutline row.fill.isSome ++ row.cells.flatMap fun c => cellOutline (.of c.text))
      (row.cells.flatMap (textWords ·.text)) :=
  append (filledRects ..) (flatMap (fun c => cell _ _ _ _ c) row.cells)

theorem bodyNode (x y : Float32) (n : Layout.BodyNode) :
    Shows (Svg.bodyNode x y n) (NodeShape.of n).outline (nodeWords n) := by
  cases n with
  | heading level frame t => exact lines ..
  | line frame mark t =>
    cases mark with
    | none => exact lines ..
    | some mark => exact cons (bullet ..) (lines ..)
  | table node =>
    have hrows := flatMap (tableRow (x + node.frame.x) (y + node.frame.y) node) node.rows
    have houtline : (NodeShape.of (.table node)).outline = node.rows.flatMap fun r =>
        fillOutline r.fill.isSome ++ r.cells.flatMap fun c => cellOutline (.of c.text) := by
      simp only [NodeShape.of, NodeShape.outline, List.flatMap_map]
    rw [houtline]
    exact hrows

theorem box (b : Layout.Box) : Shows (Svg.box b) (BoxShape.of b).outline (boxWords b) := by
  cases b with
  | headerBar frame fill title => exact cons (filledRect ..) (lines ..)
  | coverTitle frame t => exact lines ..
  | card frame fill radius content children overflow =>
    have hnodes := flatMap (bodyNode (frame.x + content.x) (frame.y + content.y)) children
    have houtline : (children.map NodeShape.of).flatMap NodeShape.outline =
        children.flatMap fun n => (NodeShape.of n).outline := List.flatMap_map ..
    rw [BoxShape.of, BoxShape.outline, houtline]
    exact append (filledRects ..) hnodes
  | footerBar frame fill caption => exact cons (filledRect ..) (lines ..)

theorem picture (d : Layout.Descriptor) :
    Shows [Svg.picture d] (slideOutline (d.children.map .of)) (d.children.flatMap boxWords) := by
  have hboxes := flatMap box d.children
  have houtline : (d.children.map BoxShape.of).flatMap BoxShape.outline =
      d.children.flatMap fun b => (BoxShape.of b).outline := List.flatMap_map ..
  rw [slideOutline, houtline]
  have hroot : Place.ValidNames "svg" ["xmlns", "width", "height", "viewBox"] := by decide
  have hground : Place.ValidNames "rect" ["width", "height", "fill"] := by decide
  exact node rfl hroot (cons (leaf rfl hground) hboxes)

end Shows

/-- A picture is read back as one element. Its outline is that of the boxes without their words, and
between its tags are the words of the boxes in their order. -/
theorem picture_reads_back (d : Layout.Descriptor) :
    ∃ root, read? (render d) = some root ∧
      root.outline = slideOutline (d.children.map .of) ∧
      root.texts = (d.children.flatMap boxWords).filter (!·.isEmpty) := by
  have hshown := Shows.picture d
  have hreadable := hshown.readable (picture d) List.mem_cons_self
  have houtline : (picture d).outline = slideOutline (d.children.map .of) := by
    rw [← hshown.outline, Element.outlineOfAll, Element.outlineOfAll, List.append_nil]
  have htexts : (picture d).texts = d.children.flatMap boxWords := by
    rw [← hshown.texts, Element.textsOfAll, Element.textsOfAll, List.append_nil]
  refine ⟨_, Element.read?_render hreadable, ?_, ?_⟩
  · rw [Element.outline, Element.outline_tidiedAll]
    exact houtline
  · rw [Element.texts, Element.texts_tidiedAll]
    exact congrArg (List.filter (!·.isEmpty)) htexts

end SlideDeck.Svg
