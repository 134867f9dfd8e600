import SlideDeck.Drawing.Presentation

/-! What a presentation that carries out a command can turn into. -/

namespace SlideDeck.Drawing

inductive Shape.Step : Shape → Op → Shape → Prop
  | fill {sh : Shape} {id : String} {color : Color} :
    Step sh (.setFill id .shape color) { sh with fill := some color }
  | insert {sh : Shape} {id text : String} (blank : sh.content = none) (nonempty : text ≠ "") :
    Step sh (.insertText id text) { sh with content := some (.plain text) }
  | restyle {sh : Shape} {op : Op} {c : Content} {extent : Extent} (content : sh.content = some c)
    (range : op.extent? = some extent) (fits : extent.fits c.text = true) :
    Step sh op { sh with content := some (c.restyle op) }

theorem Shape.step_of_draw? {sh sh' : Shape} {op : Op} (h : sh.draw? op = some sh') :
    sh.Step op sh' := by
  unfold draw? at h
  split at h
  next =>
    obtain rfl := Option.some.inj h
    exact .fill
  next =>
    unfold insert? at h
    split at h
    next hok =>
      obtain rfl := Option.some.inj h
      simp only [Bool.and_eq_true, Option.isNone_iff_eq_none, Bool.not_eq_true',
        String.isEmpty_eq_false_iff] at hok
      exact .insert hok.1 hok.2
    next => cases h
  next =>
    unfold restyle? at h
    obtain ⟨c, hc, h⟩ := Option.bind_eq_some_iff.1 h
    obtain ⟨extent, hextent, h⟩ := Option.bind_eq_some_iff.1 h
    split at h
    next hfits =>
      obtain rfl := Option.some.inj h
      exact .restyle hc hextent hfits
    next => cases h

theorem Shape.Step.id_eq {sh sh' : Shape} {op : Op} (h : sh.Step op sh') : sh'.id = sh.id := by
  cases h <;> rfl

theorem Shape.id_of_foldlM_draw? {sh sh' : Shape} {ops : List Op}
    (h : ops.foldlM draw? sh = some sh') : sh'.id = sh.id := by
  induction ops generalizing sh with
  | nil =>
    obtain rfl := Option.some.inj h
    rfl
  | cons op ops ih =>
    rw [List.foldlM_cons] at h
    obtain ⟨sh₁, hop, hops⟩ := Option.bind_eq_some_iff.1 h
    exact (ih hops).trans (step_of_draw? hop).id_eq

theorem Page.edit?_eq_some {op : Op} {shapes shapes' : List Shape}
    (h : edit? op shapes = some shapes') :
    ∃ front sh sh' back, shapes = front ++ sh :: back ∧ shapes' = front ++ sh' :: back ∧
      sh.id = op.objectId ∧ sh.Step op sh' := by
  induction shapes generalizing shapes' with
  | nil => cases h
  | cons sh rest ih =>
    unfold edit? at h
    split at h
    next hid =>
      obtain ⟨sh', hdraw, rfl⟩ := Option.map_eq_some_iff.1 h
      exact ⟨[], sh, sh', rest, rfl, rfl, hid, Shape.step_of_draw? hdraw⟩
    next =>
      obtain ⟨rest', hrest, rfl⟩ := Option.map_eq_some_iff.1 h
      obtain ⟨front, x, x', back, rfl, rfl, hid, hdraw⟩ := ih hrest
      exact ⟨sh :: front, x, x', back, rfl, rfl, hid, hdraw⟩

namespace Presentation

inductive Step : Presentation → Op → Presentation → Prop
  | page {p : Presentation} {id : String} (fresh : id ∉ p.ids) :
    Step p (.createSurface id p.pages.length) ⟨{ id := id } :: p.pages⟩
  | shape {g : Page} {rest : List Page} {id : String} {kind : ShapeKind} {frame : Rect}
    {align : Option Align} (fresh : id ∉ ids ⟨g :: rest⟩) :
    Step ⟨g :: rest⟩ (.createShape id g.id kind frame align)
      ⟨g.push (.blank id kind frame align) :: rest⟩
  | background {g : Page} {rest : List Page} {color : Color} :
    Step ⟨g :: rest⟩ (.setFill g.id .page color) ⟨{ g with background := some color } :: rest⟩
  | edit {g : Page} {rest : List Page} {op : Op} {front back : List Shape} {sh sh' : Shape}
    (split : g.shapes = front ++ sh :: back) (id : sh.id = op.objectId)
    (draw : sh.Step op sh') :
    Step ⟨g :: rest⟩ op ⟨{ g with shapes := front ++ sh' :: back } :: rest⟩

theorem step_of_edit {g : Page} {rest : List Page} {op : Op} {g' : Page}
    (h : ((Page.edit? op g.shapes).map fun shapes => { g with shapes := shapes }) = some g') :
    Step ⟨g :: rest⟩ op ⟨g' :: rest⟩ := by
  obtain ⟨shapes', hshapes, rfl⟩ := Option.map_eq_some_iff.1 h
  obtain ⟨front, sh, sh', back, hsplit, rfl, hid, hdraw⟩ := Page.edit?_eq_some hshapes
  exact .edit hsplit hid hdraw

theorem step_of_draw? {p p' : Presentation} {op : Op} (h : p.draw? op = some p') :
    Step p op p' := by
  -- One case for each way in which `draw?` can succeed.
  obtain ⟨pages⟩ := p
  unfold draw? at h
  split at h
  next => cases h
  next hcreated =>
    split at h
    next id index =>
      split at h
      next hindex =>
        obtain rfl := Option.some.inj h
        subst hindex
        exact .page (by simpa [Op.created?] using hcreated)
      next => cases h
    next => cases h
    next g rest hop hpages =>
      obtain rfl : pages = g :: rest := hpages
      obtain ⟨g', hg, rfl⟩ := Option.map_eq_some_iff.1 h
      unfold Page.draw? at hg
      split at hg
      next => cases hg
      next id surface kind frame align =>
        split at hg
        next hsurface =>
          obtain rfl := Option.some.inj hg
          subst hsurface
          exact .shape (by simpa [Op.created?] using hcreated)
        next => cases hg
      next id color =>
        split at hg
        next hid =>
          obtain rfl := Option.some.inj hg
          subst hid
          exact .background
        next => cases hg
      next => exact step_of_edit hg

theorem replay?_cons (p : Presentation) (op : Op) (ops : List Op) :
    p.replay? (op :: ops) = (p.draw? op).bind (·.replay? ops) := List.foldlM_cons

theorem replay?_append (p : Presentation) (as bs : List Op) :
    p.replay? (as ++ bs) = (p.replay? as).bind (·.replay? bs) := List.foldlM_append

end Presentation

def Op.ForShape : Op → Prop
  | .createSurface .. => False
  | .createShape .. => False
  | .setFill _ target _ => target = .shape
  | _ => True

theorem Op.forShape_of_extent? {op : Op} {extent : Extent} (h : op.extent? = some extent) :
    op.ForShape := by
  cases op <;> trivial

theorem Page.draw?_of_forShape {op : Op} (h : op.ForShape) (g : Page) :
    g.draw? op = (edit? op g.shapes).map fun shapes => { g with shapes := shapes } := by
  cases op with
  | createSurface => exact h.elim
  | createShape => exact h.elim
  | setFill id target color =>
    obtain rfl : target = .shape := h
    rfl
  | _ => rfl

theorem Presentation.draw?_of_forShape {op : Op} (h : op.ForShape) (g : Page) (rest : List Page) :
    (⟨g :: rest⟩ : Presentation).draw? op = (g.draw? op).map fun g => ⟨g :: rest⟩ := by
  cases op with
  | createSurface => exact h.elim
  | createShape => exact h.elim
  | _ => rfl

theorem Page.draw?_push {sh : Shape} {op : Op} (h : op.ForShape) (hid : sh.id = op.objectId)
    (g : Page) : (g.push sh).draw? op = (sh.draw? op).map g.push := by
  have hedit : edit? op (g.push sh).shapes = (sh.draw? op).map (· :: g.shapes) := if_pos hid
  rw [draw?_of_forShape h, hedit, Option.map_map]
  rfl

theorem Presentation.replay?_push {ops : List Op} {sh : Shape} (h : ∀ op ∈ ops, op.ForShape)
    (hid : ∀ op ∈ ops, op.objectId = sh.id) (g : Page) (rest : List Page) :
    (⟨g.push sh :: rest⟩ : Presentation).replay? ops =
      (ops.foldlM Shape.draw? sh).map fun sh' => ⟨g.push sh' :: rest⟩ := by
  induction ops generalizing sh with
  | nil => rfl
  | cons op ops ih =>
    rw [replay?_cons, draw?_of_forShape (h op List.mem_cons_self),
      Page.draw?_push (h op List.mem_cons_self) (hid op List.mem_cons_self).symm, List.foldlM_cons]
    cases hdraw : sh.draw? op with
    | none => rfl
    | some sh' =>
      have hsame := (Shape.step_of_draw? hdraw).id_eq
      exact ih (fun op hop => h op (List.mem_cons_of_mem _ hop))
        fun op hop => (hid op (List.mem_cons_of_mem _ hop)).trans hsame.symm

end SlideDeck.Drawing
