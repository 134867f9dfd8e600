import SlideDeck.Proofs.Drawing.Body
import SlideDeck.Proofs.Drawing.Playable
import SlideDeck.Proofs.Markup.WellFormed

/-! The commands of a deck are carried out to the end. A slide's commands put one object after
another on its page, each with an id that is not in use, and change none but the last one. -/

namespace SlideDeck.Drawing

namespace Shape

def Writes (id : String) (ops : List Op) : Prop :=
  ops = [] ∨ ∃ text styles, text ≠ "" ∧ ops = .insertText id text :: styles ∧
    ∀ op ∈ styles, op.Styles id text

theorem foldlM_draw?_styles {id text : String} {styles : List Op}
    (h : ∀ op ∈ styles, op.Styles id text) (sh : Shape) {c : Content}
    (hc : sh.content = some c) (htext : c.text = text) :
    ∃ sh', styles.foldlM draw? sh = some sh' := by
  induction styles generalizing sh c with
  | nil => exact ⟨sh, rfl⟩
  | cons op styles ih =>
    obtain ⟨-, extent, hextent, hfits⟩ := h op List.mem_cons_self
    have hdraw : sh.draw? op = some { sh with content := some (c.restyle op) } := by
      have hrestyle : sh.restyle? op = some { sh with content := some (c.restyle op) } := by
        simp [restyle?, hc, hextent, htext, hfits]
      cases op <;> first | exact hrestyle | cases hextent
    rw [List.foldlM_cons, hdraw]
    exact ih (fun op hop => h op (List.mem_cons_of_mem _ hop)) _ rfl htext

theorem Writes.draws {id : String} {ops : List Op} (h : Writes id ops) (sh : Shape)
    (hblank : sh.content = none) : ∃ sh', ops.foldlM draw? sh = some sh' := by
  rcases h with rfl | ⟨text, styles, htext, rfl, hstyles⟩
  · exact ⟨sh, rfl⟩
  · have hdraw : sh.draw? (.insertText id text) =
        some { sh with content := some (.plain text) } := by
      simp [draw?, insert?, hblank, htext]
    rw [List.foldlM_cons, hdraw]
    exact foldlM_draw?_styles hstyles _ rfl rfl

end Shape

namespace Sheet

variable (s : Sheet)

/-- The page of the slide is in work, with shapes for these roles, last one first. -/
def Open (rest : List Page) (roles : List Role) (p : Presentation) : Prop :=
  ∃ g : Page, p = ⟨g :: rest⟩ ∧ g.id = s.id .page ∧ g.shapes.map Shape.id = roles.map s.id

/-- The commands are carried out, and then there are shapes for other roles. -/
def Draws (rest : List Page) (ops : List Op) (roles roles' : List Role) : Prop :=
  ∀ p, s.Open rest roles p → ∃ p', p.replay? ops = some p' ∧ s.Open rest roles' p'

theorem writes_fillText (role : Role) {text : String} (htext : text ≠ "")
    (style : TextStyle) : Shape.Writes (s.id role) (s.fillText role text style) := by
  refine .inr ⟨text, _, htext, rfl, fun op hop => ?_⟩
  obtain rfl := List.mem_singleton.1 hop
  exact ⟨rfl, .all, rfl, rfl⟩

variable {s} {rest : List Page}

theorem Draws.append {as bs : List Op} {roles₁ roles₂ roles₃ : List Role}
    (ha : s.Draws rest as roles₁ roles₂) (hb : s.Draws rest bs roles₂ roles₃) :
    s.Draws rest (as ++ bs) roles₁ roles₃ := by
  intro p hp
  obtain ⟨p₁, has, hp₁⟩ := ha p hp
  obtain ⟨p₂, hbs, hp₂⟩ := hb p₁ hp₁
  exact ⟨p₂, by rw [Presentation.replay?_append, has, Option.bind_some, hbs], hp₂⟩

section Fresh

variable (hrest : ∀ role, s.id role ∉ rest.flatMap Page.ids)

include hrest

theorem draws_shape {role : Role} {roles : List Role} {kind : ShapeKind} {frame : Rect}
    {align : Option Align} {ops : List Op} (hrole : role ∉ .page :: roles)
    (hops : ∀ op ∈ ops, op.ForShape ∧ op.objectId = s.id role)
    (hdraw : ∀ sh : Shape, sh.content = none → ∃ sh', ops.foldlM Shape.draw? sh = some sh') :
    s.Draws rest (.createShape (s.id role) (s.id .page) kind frame align :: ops) roles
      (role :: roles) := by
  rintro p ⟨g, rfl, hg, hshapes⟩
  have hfresh : s.id role ∉ (⟨g :: rest⟩ : Presentation).ids := by
    have := hrest role
    simp only [List.mem_cons, not_or] at hrole
    simpa [Presentation.ids, Page.ids, hg, hshapes, hrole] using this
  have hcreate : (⟨g :: rest⟩ : Presentation).draw?
      (.createShape (s.id role) (s.id .page) kind frame align) =
        some ⟨g.push (.blank (s.id role) kind frame align) :: rest⟩ := by
    simp [Presentation.draw?, Op.created?, hfresh, Page.draw?, hg]
  obtain ⟨sh', hsh'⟩ := hdraw (.blank (s.id role) kind frame align) rfl
  refine ⟨⟨g.push sh' :: rest⟩, ?_, g.push sh', rfl, hg, ?_⟩
  · rw [Presentation.replay?_cons, hcreate, Option.bind_some,
      Presentation.replay?_push (fun op hop => (hops op hop).1) (fun op hop => (hops op hop).2),
      hsh', Option.map_some]
  · have hid : sh'.id = s.id role := Shape.id_of_foldlM_draw? hsh'
    simp [Page.push, hid, hshapes]

theorem draws_filledShape {role : Role} {roles : List Role} (hrole : role ∉ .page :: roles)
    (kind : ShapeKind) (frame : Rect) (color : Color) :
    s.Draws rest (s.filledShape role kind frame color) roles (role :: roles) := by
  refine draws_shape hrest hrole (fun op hop => ?_) fun sh _ => ?_
  · obtain rfl := List.mem_singleton.1 hop
    exact ⟨rfl, rfl⟩
  · exact ⟨{ sh with fill := some color }, rfl⟩

theorem draws_textBox {role : Role} {roles : List Role} (hrole : role ∉ .page :: roles)
    (frame : Rect) (align : Align) {ops : List Op} (hops : Shape.Writes (s.id role) ops) :
    s.Draws rest (s.textBox role frame align :: ops) roles (role :: roles) := by
  refine draws_shape hrest hrole (fun op hop => ?_) hops.draws
  rcases hops with rfl | ⟨text, styles, -, rfl, hstyles⟩
  · cases hop
  · rcases List.mem_cons.1 hop with rfl | hop
    · exact ⟨trivial, rfl⟩
    · obtain ⟨hid, extent, hextent, -⟩ := hstyles op hop
      exact ⟨Op.forShape_of_extent? hextent, hid⟩

def shapeRoles (s : Sheet) : List Role :=
  if s.theme.isCover then [.footer] else [.card, .footer, .header]

theorem draws_shapes : s.Draws rest s.shapes [] s.shapeRoles := by
  unfold shapes shapeRoles
  split
  · refine draws_filledShape hrest ?_ _ _ _
    decide
  · refine Draws.append (draws_filledShape hrest ?_ _ _ _)
      (Draws.append (draws_filledShape hrest ?_ _ _ _) (draws_filledShape hrest ?_ _ _ _))
    · decide
    · decide
    · decide

theorem draws_text {page : Slide} (htitle : page.displayTitle ≠ "") :
    s.Draws rest (s.title page ++ (s.caption ++ s.body page)) s.shapeRoles
      (.body :: .caption :: .title :: s.shapeRoles) := by
  have htitleRole : Role.title ∉ .page :: s.shapeRoles := by
    unfold shapeRoles
    split <;> decide
  have hcaptionRole : Role.caption ∉ .page :: .title :: s.shapeRoles := by
    unfold shapeRoles
    split <;> decide
  have hbodyRole : Role.body ∉ .page :: .caption :: .title :: s.shapeRoles := by
    unfold shapeRoles
    split <;> decide
  refine Draws.append (draws_textBox hrest htitleRole _ _ (s.writes_fillText .title htitle _))
    (Draws.append (draws_textBox hrest hcaptionRole _ _ ?_) (draws_textBox hrest hbodyRole _ _ ?_))
  · split
    next => exact .inl rfl
    next hne => exact s.writes_fillText .caption (by simpa using hne) _
  · rw [bodyText_eq]
    split
    next => exact .inl rfl
    next hne => exact .inr ⟨_, _, hne, rfl, fun op hop => s.styles_of_mem_bodyStyles hop⟩

/-- The commands for a slide add a page, and all the ids on it are the slide's own. -/
theorem replay?_ops {page : Slide} (htitle : page.displayTitle ≠ "")
    (hindex : rest.length = s.index) :
    ∃ g : Page, (⟨rest⟩ : Presentation).replay? (s.ops page) = some ⟨g :: rest⟩ ∧
      ∀ id ∈ g.ids, ∃ role, id = s.id role := by
  have hsurface : ∃ p, (⟨rest⟩ : Presentation).replay? s.surface = some p ∧ s.Open rest [] p := by
    have hfresh : s.id .page ∉ (⟨rest⟩ : Presentation).ids := hrest .page
    refine ⟨⟨{ id := s.id .page, background := some s.theme.colors.background } :: rest⟩, ?_,
      _, rfl, rfl, rfl⟩
    simp [surface, Presentation.replay?, Presentation.draw?, Op.created?, hfresh, hindex,
      Page.draw?]
  obtain ⟨p, hp, hopen⟩ := hsurface
  have hdraws := (draws_shapes hrest).append (draws_text hrest htitle)
  obtain ⟨p', hp', g, rfl, hg, hshapes⟩ := hdraws p hopen
  refine ⟨g, ?_, fun id hid => ?_⟩
  · rw [ops, Presentation.replay?_append, hp, Option.bind_some, hp']
  · rw [Page.ids, hshapes, hg] at hid
    rcases List.mem_append.1 hid with hid | hid
    · obtain ⟨role, -, rfl⟩ := List.mem_map.1 hid
      exact ⟨role, rfl⟩
    · exact ⟨.page, List.mem_singleton.1 hid⟩

end Fresh

end Sheet

/-- The presentation has `n` pages, and the ids in use are those of the first `n` slides. -/
def Presentation.Below (idPrefix : String) (n : Nat) (p : Presentation) : Prop :=
  p.pages.length = n ∧ ∀ id ∈ p.ids, ∃ j role, j < n ∧ id = objectId idPrefix j (Role.name role)

theorem below_empty (idPrefix : String) : Presentation.empty.Below idPrefix 0 :=
  ⟨rfl, fun id hid => by simp [Presentation.ids, Presentation.empty] at hid⟩

theorem below_of_slide {page : Slide} (htitle : page.displayTitle ≠ "") {s : Sheet}
    {p : Presentation} (hp : p.Below s.style.idPrefix s.index) :
    ∃ p', p.replay? (s.ops page) = some p' ∧ p'.Below s.style.idPrefix (s.index + 1) := by
  obtain ⟨rest⟩ := p
  obtain ⟨hlength, hids⟩ := hp
  have hrest (role : Role) : s.id role ∉ rest.flatMap Page.ids := by
    -- An id that is in use has the number of an earlier slide in it.
    intro hid
    obtain ⟨j, other, hj, heq⟩ := hids _ hid
    have := (objectId_inj.1 heq).1
    omega
  obtain ⟨g, hreplay, hg⟩ := Sheet.replay?_ops hrest htitle hlength
  refine ⟨_, hreplay, congrArg (· + 1) hlength, fun id hid => ?_⟩
  rcases List.mem_append.1 hid with hid | hid
  · obtain ⟨role, rfl⟩ := hg id hid
    exact ⟨s.index, role, Nat.lt_succ_self _, rfl⟩
  · obtain ⟨j, role, hj, rfl⟩ := hids id hid
    exact ⟨j, role, Nat.lt_succ_of_lt hj, rfl⟩

theorem below_of_slides (theme : Nat → Theme) (layout : LayoutStyle) (style : DrawingStyle)
    {slides : List Slide} (htitle : ∀ page ∈ slides, page.displayTitle ≠ "") {n : Nat}
    {p : Presentation} (hp : p.Below style.idPrefix n) :
    ∃ p', p.replay? (slides.mapIdx fun i page =>
        slide (n + i) page (theme (n + i)) layout style).flatten = some p' ∧
      p'.Below style.idPrefix (n + slides.length) := by
  -- The number of the first slide is one more in each step of the induction.
  induction slides generalizing n p with
  | nil => exact ⟨p, rfl, hp⟩
  | cons page slides ih =>
    obtain ⟨p₁, hpage, hp₁⟩ :=
      below_of_slide (s := ⟨n, theme n, layout, style⟩) (htitle page List.mem_cons_self) hp
    obtain ⟨p₂, hslides, hp₂⟩ := ih (fun page h => htitle page (List.mem_cons_of_mem _ h)) hp₁
    have hshift : (fun i page => slide (n + (i + 1)) page (theme (n + (i + 1))) layout style) =
        fun i page => slide (n + 1 + i) page (theme (n + 1 + i)) layout style := by
      funext i page
      rw [Nat.add_assoc, Nat.add_comm 1 i]
    refine ⟨p₂, ?_, ?_⟩
    · rw [List.mapIdx_cons, List.flatten_cons, Presentation.replay?_append, hshift, slide,
        Nat.add_zero, hpage, Option.bind_some, hslides]
    · rwa [List.length_cons, Nat.add_comm slides.length, ← Nat.add_assoc]

/-- The commands of a deck can be carried out one by one, from an empty presentation on, and they
make a page for every segment. -/
theorem deck_plays (markdown : String) (s : Settings) :
    (∃ p, Presentation.empty.replay? (deck markdown s) = some p ∧
      p.pages.length = Markup.segmentCount markdown) ∧ Playable (deck markdown s) := by
  have htitle : ∀ page ∈ (Markup.document markdown).slides, page.displayTitle ≠ "" := by
    intro page hpage
    simp only [Markup.document, List.mem_map] at hpage
    obtain ⟨segment, -, rfl⟩ := hpage
    exact Markup.displayTitle_ne_empty segment
  obtain ⟨p, hreplay, hlength, -⟩ :=
    below_of_slides s.themeFor s.layout s.drawing htitle (below_empty _)
  simp only [Nat.zero_add] at hreplay hlength
  refine ⟨⟨p, hreplay, ?_⟩, playable_of_replay? hreplay⟩
  rw [hlength, Markup.document, List.length_map, Markup.segmentCount]

end SlideDeck.Drawing
