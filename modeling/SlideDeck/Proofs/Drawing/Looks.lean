import SlideDeck.Proofs.Drawing.Body

/-! How the text of a body looks unit by unit once all its commands are carried out. A unit has the
style of plain body text, changed first for its line and then for the bold run it stands in. -/

namespace SlideDeck

def LineKind.isStrong : LineKind → Bool
  | .heading _ => true
  | .row header => header
  | .text _ => false

namespace Drawing

open Body (PlacedRun placedRuns)

namespace Content

theorem getElem?_looks_foldl_restyle (ops : List Op) (c : Content) (unit : Nat) :
    (ops.foldl restyle c).looks[unit]? =
      (c.looks[unit]?).map fun look => ops.foldl (Op.lookAt unit) look := by
  induction ops generalizing c with
  | nil => simp
  | cons op ops ih =>
    rw [List.foldl_cons, ih]
    simp [restyle, Function.comp_def]

theorem text_foldl_restyle (ops : List Op) (c : Content) :
    (ops.foldl restyle c).text = c.text := by
  induction ops generalizing c with
  | nil => rfl
  | cons op ops ih => exact ih _

theorem foldl_step_of_styles {id text : String} {ops : List Op}
    (h : ∀ op ∈ ops, op.Styles id text) (c : Content) :
    ops.foldl (step id) (some c) = some (ops.foldl restyle c) := by
  induction ops generalizing c with
  | nil => rfl
  | cons op ops ih =>
    have hstep : step id (some c) op = some (c.restyle op) := by
      obtain ⟨hid, extent, hextent, -⟩ := h op List.mem_cons_self
      cases op <;> simp_all [step, Op.extent?]
    rw [List.foldl_cons, hstep, ih fun op hop => h op (List.mem_cons_of_mem _ hop),
      List.foldl_cons]

end Content

theorem after?_body (s : Sheet) (page : Slide) :
    Content.after? (s.id .body) (s.ops page) =
      if (Body.ofBlocks page.blocks).text = "" then none
      else some ((s.bodyStyles (.ofBlocks page.blocks)).foldl Content.restyle
        (.plain (Body.ofBlocks page.blocks).text)) := by
  have hbox : Content.step (s.id .body) none
      (s.textBox .body (Regions.reference.bodyFor s.theme.isCover) .top) = none := by
    simp [Content.step, Sheet.textBox, Op.objectId]
  rw [← after?_opsFor, s.opsFor_ops, Sheet.opsOf, Sheet.body, Sheet.bodyText_eq, Content.after?,
    List.foldl_cons, hbox]
  split
  · rfl
  · have hinsert : Content.step (s.id .body) none
        (.insertText (s.id .body) (Body.ofBlocks page.blocks).text) =
          some (.plain (Body.ofBlocks page.blocks).text) := by
      simp [Content.step, Op.objectId]
    rw [List.foldl_cons, hinsert]
    exact Content.foldl_step_of_styles (fun op hop => s.styles_of_mem_bodyStyles hop) _

def Op.change? (unit : Nat) : Op → Option StyleChange
  | .styleText _ extent change => if extent.covers unit then some change else none
  | _ => none

theorem Op.style_lookAt (unit : Nat) (look : Look) (op : Op) :
    (op.lookAt unit look).style = ((op.change? unit).map (·.over look.style)).getD look.style := by
  cases op with
  | styleText id extent change =>
    cases hcover : extent.covers unit <;>
      simp [lookAt, extent?, restyle, change?, hcover]
  | alignParagraphs id extent align =>
    unfold lookAt
    split <;> rfl
  | addBullets id span preset =>
    unfold lookAt
    split <;> rfl
  | _ => rfl

theorem style_foldl_lookAt (unit : Nat) (ops : List Op) (look : Look) :
    (ops.foldl (Op.lookAt unit) look).style =
      (ops.filterMap (Op.change? unit)).foldl (fun old new => new.over old) look.style := by
  induction ops generalizing look with
  | nil => rfl
  | cons op ops ih =>
    rw [List.foldl_cons, ih, Op.style_lookAt, List.filterMap_cons]
    cases op.change? unit <;> rfl

theorem foldl_embolden (n : Nat) (c : StyleChange) :
    (List.replicate n StyleChange.embolden).foldl (fun old new => new.over old) c =
      if n = 0 then c else { c with bold := some true } := by
  induction n generalizing c with
  | zero => rfl
  | succ n ih =>
    rw [List.replicate_succ, List.foldl_cons, ih]
    split <;> simp [StyleChange.over, StyleChange.embolden]

namespace Sheet

variable (s : Sheet)

def styleIn (kind : LineKind) (strong : Bool) : StyleChange where
  fontFamily := some s.theme.typography.body.fontFamily
  fontSize := some <|
    match kind with
    | .heading level => s.bodySize * s.layout.scaleOf level
    | .row _ => s.bodySize
    | .text _ => s.bodySize
  bold := some (s.theme.typography.body.bold || (kind.isStrong || strong))
  color := some <|
    match kind with
    | .heading _ => s.theme.colors.primary
    | .row _ => s.theme.colors.text
    | .text _ => s.theme.colors.text

def plainStyle : StyleChange := s.styleIn (.text false) false

section Units

variable (blocks : List Block) (unit : Nat)

theorem filterMap_lineStyles (body : Body) :
    (s.lineStyles body).filterMap (Op.change? unit) =
      (body.lines.filter fun l => l.span.covers unit).filterMap fun l => s.lineChange? l.kind := by
  rw [lineStyles, List.filterMap_filterMap, List.filterMap_filter, List.filterMap_filter]
  refine List.filterMap_congr fun l _ => ?_
  cases hcover : l.span.covers unit with
  | false =>
    cases s.lineChange? l.kind <;>
      simp [styleBody, Op.change?, Extent.covers, hcover]
  | true =>
    have hfull : (!l.span.isEmpty) = true := by
      simp only [Span.covers, Bool.and_eq_true, decide_eq_true_eq] at hcover
      rw [Bool.not_eq_true', Span.isEmpty_eq_false_iff]
      omega
    cases s.lineChange? l.kind <;>
      simp [styleBody, Op.change?, Extent.covers, hcover, hfull]

theorem filterMap_boldStyles :
    (s.boldStyles (.ofBlocks blocks)).filterMap (Op.change? unit) =
      List.replicate ((Body.ofBlocks blocks).bold.countP (·.covers unit)) .embolden := by
  rw [boldStyles_ofBlocks, List.filterMap_map]
  induction (Body.ofBlocks blocks).bold with
  | nil => rfl
  | cons span spans ih =>
    rw [List.filterMap_cons, ih, List.countP_cons]
    cases hcover : span.covers unit <;>
      simp [styleBody, Op.change?, Extent.covers, hcover, List.replicate_succ]

theorem filterMap_bullets (body : Body) : (s.bullets body).filterMap (Op.change? unit) = [] := by
  unfold bullets
  split
  · rfl
  · simp [Op.change?]

/-- The changes that reach a unit: that of the whole text, that of its line and those of the bold
spans it lies in. -/
theorem filterMap_bodyStyles :
    (s.bodyStyles (.ofBlocks blocks)).filterMap (Op.change? unit) =
      s.bodyChange ::
        ((((Body.ofBlocks blocks).lines.filter fun l => l.span.covers unit).filterMap fun l =>
            s.lineChange? l.kind) ++
          List.replicate ((Body.ofBlocks blocks).bold.countP (·.covers unit)) .embolden) := by
  rw [bodyStyles, List.filterMap_cons, List.filterMap_append, List.filterMap_append,
    List.filterMap_cons, filterMap_lineStyles, filterMap_boldStyles, filterMap_bullets]
  simp [styleBody, Op.change?, Extent.covers]

def styleAt : StyleChange :=
  ((s.bodyStyles (.ofBlocks blocks)).foldl (Op.lookAt unit) {}).style

theorem styleAt_eq :
    s.styleAt blocks unit =
      let changed := (((Body.ofBlocks blocks).lines.filter fun l => l.span.covers unit).filterMap
        fun l => s.lineChange? l.kind).foldl (fun old new => new.over old) s.bodyChange
      if (Body.ofBlocks blocks).bold.any (·.covers unit) then { changed with bold := some true }
      else changed := by
  have hfirst : s.bodyChange.over {} = s.bodyChange := rfl
  rw [styleAt, style_foldl_lookAt, filterMap_bodyStyles, List.foldl_cons, List.foldl_append,
    foldl_embolden, hfirst]
  cases hany : (Body.ofBlocks blocks).bold.any (·.covers unit) with
  | true =>
    have hcount : (Body.ofBlocks blocks).bold.countP (·.covers unit) ≠ 0 := by
      rw [Ne, List.countP_eq_zero]
      simpa using hany
    rw [if_neg hcount]
    rfl
  | false =>
    have hcount : (Body.ofBlocks blocks).bold.countP (·.covers unit) = 0 := by
      rw [List.countP_eq_zero]
      simpa using hany
    rw [if_pos hcount]
    rfl

variable {blocks unit}

theorem embolden_styleIn (kind : LineKind) (strong : Bool) :
    { s.styleIn kind strong with bold := some true } = s.styleIn kind true := by
  simp [styleIn]

theorem over_bodyChange (kind : LineKind) :
    (s.lineChange? kind).toList.foldl (fun old new => new.over old) s.bodyChange =
      s.styleIn kind false := by
  cases kind with
  | heading level =>
    simp [lineChange?, bodyChange, StyleChange.ofStyle, StyleChange.over, styleIn,
      LineKind.isStrong]
  | text bullet =>
    simp [lineChange?, bodyChange, StyleChange.ofStyle, styleIn, LineKind.isStrong]
  | row header =>
    cases header <;>
      simp [lineChange?, bodyChange, StyleChange.ofStyle, StyleChange.embolden, StyleChange.over,
        styleIn, LineKind.isStrong]

theorem styleAt_of_line {l : BodyLine} (hl : l ∈ (Body.ofBlocks blocks).lines)
    (hcover : l.span.covers unit = true) :
    s.styleAt blocks unit =
      s.styleIn l.kind ((Body.ofBlocks blocks).bold.any (·.covers unit)) := by
  have hline : ([l].filterMap fun l => s.lineChange? l.kind) = (s.lineChange? l.kind).toList := by
    cases h : s.lineChange? l.kind <;> simp [h]
  rw [styleAt_eq, (Body.ordered_lines blocks).filter_covers hl hcover, hline, over_bodyChange]
  cases (Body.ofBlocks blocks).bold.any (·.covers unit) with
  | true => exact s.embolden_styleIn l.kind false
  | false => rfl

theorem styleAt_placedRun {p : PlacedRun} (hp : p ∈ placedRuns blocks)
    (hcover : p.span.covers unit = true) :
    s.styleAt blocks unit = s.styleIn p.kind p.run.bold := by
  obtain ⟨l, hl, hkind, hline⟩ := Body.exists_line_covers hp hcover
  have htext : p.run.text ≠ "" := by
    intro hempty
    obtain ⟨_, _, _, hstart, hstop⟩ := Span.slice_eq_some_iff.1 (Body.slice_placedRun hp)
    rw [hempty, Text.units_empty] at hstop
    simp only [Span.covers, Bool.and_eq_true, decide_eq_true_eq] at hcover
    omega
  have hstrong : p.run.isStrong = p.run.bold := by simp [Run.isStrong, htext]
  rw [s.styleAt_of_line hl hline, Body.any_bold_covers hp hcover, hkind, hstrong]

end Units

end Sheet

end Drawing

end SlideDeck
