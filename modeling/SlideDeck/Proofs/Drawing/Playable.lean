import Mathlib.Data.List.Nodup
import SlideDeck.Proofs.Drawing.Groups
import SlideDeck.Proofs.Drawing.Presentation
import SlideDeck.Proofs.Text.Units

/-! What it takes for a command to be carried out, told by the commands before it. A presentation
remembers these commands well enough: what it carries out in order fits at every place. -/

namespace SlideDeck.Drawing

def created (ops : List Op) : List String := ops.filterMap Op.created?

def Op.liveAfter (ids : List String) : Op → List String
  | .createSurface id _ => [id]
  | .createShape id _ _ _ _ => id :: ids
  | _ => ids

/-- The ids that were created since the last page was, and that of the page itself at the end. -/
def liveIds (ops : List Op) : List String := ops.foldl Op.liveAfter []

/-- Both ends of the extent are in the text, in order and between two characters. -/
def Extent.Inside : Extent → String → Prop
  | .all, _ => True
  | .fixed span, text => span.start ≤ span.stop ∧ span.stop ≤ Text.units text ∧
      Text.Boundary text span.start ∧ Text.Boundary text span.stop

def Op.Fits (before : List Op) : Op → Prop
  | .createSurface id index => id ∉ created before ∧ index = before.countP Op.isSurface
  | .createShape id surface _ _ _ => id ∉ created before ∧ (liveIds before).getLast? = some surface
  | .setFill id _ _ => id ∈ liveIds before
  | .insertText id text => id ∈ liveIds before ∧ insertedInto id before = [] ∧ text ≠ ""
  | .styleText id extent _ =>
    id ∈ liveIds before ∧ ∃ text, insertedInto id before = [text] ∧ extent.Inside text
  | .alignParagraphs id extent _ =>
    id ∈ liveIds before ∧ ∃ text, insertedInto id before = [text] ∧ extent.Inside text
  | .addBullets id span _ =>
    id ∈ liveIds before ∧ ∃ text, insertedInto id before = [text] ∧ (Extent.fixed span).Inside text

/-- Every command can follow those before it. -/
def Playable (ops : List Op) : Prop :=
  ∀ before op after, ops = before ++ op :: after → op.Fits before

theorem Extent.inside_of_fits {extent : Extent} {text : String} (h : extent.fits text = true) :
    extent.Inside text := by
  cases extent with
  | all => trivial
  | fixed span =>
    obtain ⟨hle, hstart, hstop⟩ := Span.isSome_slice_iff.1 h
    exact ⟨hle, hstop.le_units, hstart, hstop⟩

theorem fits_of_extent? {before : List Op} {op : Op} {extent : Extent} {text : String}
    (hop : op.extent? = some extent) (hlive : op.objectId ∈ liveIds before)
    (hinsert : insertedInto op.objectId before = [text]) (hinside : extent.Inside text) :
    op.Fits before := by
  cases op with
  | styleText id e change =>
    obtain rfl := Option.some.inj hop
    exact ⟨hlive, text, hinsert, hinside⟩
  | alignParagraphs id e align =>
    obtain rfl := Option.some.inj hop
    exact ⟨hlive, text, hinsert, hinside⟩
  | addBullets id span preset =>
    obtain rfl := Option.some.inj hop
    exact ⟨hlive, text, hinsert, hinside⟩
  | _ => cases hop

theorem liveIds_concat (ops : List Op) (op : Op) :
    liveIds (ops ++ [op]) = op.liveAfter (liveIds ops) := by
  rw [liveIds, List.foldl_append]
  rfl

theorem created_concat (ops : List Op) (op : Op) :
    created (ops ++ [op]) = created ops ++ op.created?.toList := by
  rw [created, List.filterMap_append, created]
  cases h : op.created? <;> simp [h]

/-- The presentation is what the commands have made. -/
structure Tracks (ops : List Op) (p : Presentation) : Prop where
  pages : p.pages.length = ops.countP Op.isSurface
  ids : p.ids = (created ops).reverse
  nodup : p.ids.Nodup
  live : (p.pages.head?.map Page.ids).getD [] = liveIds ops
  contents : ∀ g ∈ p.pages, ∀ sh ∈ g.shapes,
    insertedInto sh.id ops = (sh.content.map Content.text).toList
  unused : ∀ id ∉ p.ids, insertedInto id ops = []

namespace Tracks

variable {ops : List Op} {p p' : Presentation} {g : Page} {rest : List Page} {op : Op}

theorem empty : Tracks [] .empty where
  pages := rfl
  ids := rfl
  nodup := .nil
  live := rfl
  contents := by simp [Presentation.empty]
  unused _ _ := rfl

theorem ids_eq (h : Tracks ops ⟨g :: rest⟩) : g.ids = liveIds ops := h.live

theorem not_mem_created (h : Tracks ops p) {id : String} (fresh : id ∉ p.ids) :
    id ∉ created ops := by
  rwa [h.ids, List.mem_reverse] at fresh

theorem page (h : Tracks ops p) {id : String} (fresh : id ∉ p.ids) (index : Nat) :
    Tracks (ops ++ [.createSurface id index]) ⟨{ id := id } :: p.pages⟩ := by
  have hinsert (id' : String) :
      insertedInto id' (ops ++ [.createSurface id index]) = insertedInto id' ops :=
    insertedInto_concat_of_none id' ops rfl
  have hids : (⟨{ id := id } :: p.pages⟩ : Presentation).ids = id :: p.ids := rfl
  refine ⟨?_, ?_, ?_, ?_, ?_, ?_⟩
  · simp [h.pages, Op.isSurface]
  · rw [hids, h.ids, created_concat]
    simp [Op.created?]
  · rw [hids]
    exact List.nodup_cons.2 ⟨fresh, h.nodup⟩
  · rw [liveIds_concat]
    rfl
  · intro g hg sh hsh
    rw [hinsert]
    rcases List.mem_cons.1 hg with rfl | hg
    · simp at hsh
    · exact h.contents g hg sh hsh
  · intro id' hid'
    rw [hinsert]
    rw [hids] at hid'
    exact h.unused id' fun hmem => hid' (List.mem_cons_of_mem _ hmem)

theorem shape (h : Tracks ops ⟨g :: rest⟩) {id : String}
    (fresh : id ∉ (⟨g :: rest⟩ : Presentation).ids) (surface : String) (kind : ShapeKind)
    (frame : Rect) (align : Option Align) :
    Tracks (ops ++ [.createShape id surface kind frame align])
      ⟨g.push (.blank id kind frame align) :: rest⟩ := by
  have hinsert (id' : String) :
      insertedInto id' (ops ++ [.createShape id surface kind frame align]) =
        insertedInto id' ops := insertedInto_concat_of_none id' ops rfl
  refine ⟨?_, ?_, ?_, ?_, ?_, ?_⟩
  · simpa [Op.isSurface] using h.pages
  · rw [created_concat, List.reverse_append, ← h.ids]
    rfl
  · exact List.nodup_cons.2 ⟨fresh, h.nodup⟩
  · rw [liveIds_concat, ← h.ids_eq]
    rfl
  · intro g' hg sh hsh
    rw [hinsert]
    rcases List.mem_cons.1 hg with rfl | hg
    · rcases List.mem_cons.1 hsh with rfl | hsh
      · exact h.unused id fresh
      · exact h.contents g List.mem_cons_self sh hsh
    · exact h.contents g' (List.mem_cons_of_mem _ hg) sh hsh
  · intro id' hid'
    rw [hinsert]
    exact h.unused id' fun hmem => hid' (List.mem_cons_of_mem _ hmem)

theorem same_ids (h : Tracks ops ⟨g :: rest⟩) {g' : Page} (hids : g'.ids = g.ids)
    (hop : op.created? = none) (hmem : op.objectId ∈ g.ids)
    (hcontents : ∀ g'' ∈ g' :: rest, ∀ sh ∈ g''.shapes,
      insertedInto sh.id (ops ++ [op]) = (sh.content.map Content.text).toList) :
    Tracks (ops ++ [op]) ⟨g' :: rest⟩ := by
  have hall : (⟨g' :: rest⟩ : Presentation).ids = (⟨g :: rest⟩ : Presentation).ids := by
    simp [Presentation.ids, hids]
  have hsurface : op.isSurface = false := by cases op <;> simp_all [Op.created?, Op.isSurface]
  have hafter : op.liveAfter (liveIds ops) = liveIds ops := by
    cases op <;> simp_all [Op.created?, Op.liveAfter]
  refine ⟨?_, ?_, ?_, ?_, hcontents, ?_⟩
  · simpa [hsurface] using h.pages
  · rw [hall, h.ids, created_concat, hop]
    simp
  · rw [hall]
    exact h.nodup
  · rw [liveIds_concat, hafter, ← h.live]
    exact hids
  · intro id hid
    rw [hall] at hid
    have hother : op.objectId ≠ id := by
      rintro rfl
      exact hid (List.mem_append_left _ hmem)
    rw [insertedInto_concat, if_neg hother, List.append_nil]
    exact h.unused id hid

theorem id_unique (h : Tracks ops ⟨g :: rest⟩) {front back : List Shape} {sh : Shape}
    (split : g.shapes = front ++ sh :: back) :
    sh.id ∉ front.map Shape.id ++ (back.map Shape.id ++ g.id :: rest.flatMap Page.ids) := by
  have hnodup := h.nodup
  simp only [Presentation.ids, List.flatMap_cons, Page.ids, split, List.map_append, List.map_cons,
    List.append_assoc, List.cons_append, List.nil_append] at hnodup
  exact (List.nodup_cons.1 (List.nodup_middle.1 hnodup)).1

theorem edit (h : Tracks ops ⟨g :: rest⟩) {front back : List Shape} {sh sh' : Shape}
    (split : g.shapes = front ++ sh :: back) (hid : sh'.id = sh.id) (hobject : sh.id = op.objectId)
    (hop : op.created? = none)
    (htext : (sh'.content.map Content.text).toList =
      (sh.content.map Content.text).toList ++ op.inserted?.toList) :
    Tracks (ops ++ [op]) ⟨{ g with shapes := front ++ sh' :: back } :: rest⟩ := by
  refine h.same_ids ?_ hop ?_ ?_
  · simp [Page.ids, split, hid]
  · simp [Page.ids, split, hobject]
  · -- No other shape has the id of the command, so the texts of all the others stay.
    have hother := h.id_unique split
    have hkeep {g'' : Page} (hg : g'' ∈ g :: rest) {x : Shape} (hx : x ∈ g''.shapes)
        (hne : sh.id ≠ x.id) :
        insertedInto x.id (ops ++ [op]) = (x.content.map Content.text).toList := by
      rw [insertedInto_concat, ← hobject, if_neg hne, List.append_nil]
      exact h.contents g'' hg x hx
    intro g'' hg x hx
    rcases List.mem_cons.1 hg with rfl | hg
    · rcases List.mem_append.1 hx with hx | hx
      · refine hkeep List.mem_cons_self (by simp [split, hx]) fun heq => hother ?_
        exact List.mem_append_left _ (heq ▸ List.mem_map_of_mem hx)
      rcases List.mem_cons.1 hx with rfl | hx
      · rw [insertedInto_concat, hid, hobject, if_pos rfl, htext, ← hobject,
          h.contents g List.mem_cons_self sh (by simp [split])]
      · refine hkeep List.mem_cons_self (by simp [split, hx]) fun heq => hother ?_
        exact List.mem_append_right _ (List.mem_append_left _ (heq ▸ List.mem_map_of_mem hx))
    · refine hkeep (List.mem_cons_of_mem _ hg) hx fun heq => hother ?_
      have hids : x.id ∈ g''.ids := List.mem_append_left _ (List.mem_map_of_mem hx)
      rw [heq]
      simp only [List.mem_append, List.mem_cons, List.mem_flatMap]
      exact .inr (.inr (.inr ⟨g'', hg, hids⟩))

theorem background (h : Tracks ops ⟨g :: rest⟩) (color : Color) :
    Tracks (ops ++ [.setFill g.id .page color]) ⟨{ g with background := some color } :: rest⟩ := by
  refine h.same_ids rfl rfl (List.mem_append_right _ List.mem_cons_self) fun g' hg sh hsh => ?_
  rw [insertedInto_concat_of_none _ _ rfl]
  rcases List.mem_cons.1 hg with rfl | hg
  · exact h.contents g List.mem_cons_self sh hsh
  · exact h.contents g' (List.mem_cons_of_mem _ hg) sh hsh

theorem step (h : Tracks ops p) (hs : p.Step op p') : op.Fits ops ∧ Tracks (ops ++ [op]) p' := by
  cases hs with
  | page fresh => exact ⟨⟨h.not_mem_created fresh, h.pages⟩, h.page fresh _⟩
  | @shape g rest id kind frame align fresh =>
    refine ⟨⟨h.not_mem_created fresh, ?_⟩, h.shape fresh ..⟩
    rw [← h.ids_eq, Page.ids, List.getLast?_append]
    rfl
  | @background g rest color =>
    refine ⟨?_, h.background color⟩
    show g.id ∈ liveIds ops
    rw [← h.ids_eq]
    exact List.mem_append_right _ List.mem_cons_self
  | @edit g rest op front back sh sh' split hobject draw =>
    -- The content of the shape tells whether text was inserted before, and which.
    have hlive : op.objectId ∈ liveIds ops := by
      rw [← h.ids_eq, ← hobject, Page.ids, split]
      simp
    have htexts := h.contents g List.mem_cons_self sh (by simp [split])
    cases draw with
    | @fill id color =>
      exact ⟨hlive, h.edit split rfl hobject rfl (List.append_nil _).symm⟩
    | @insert id text blank nonempty =>
      rw [blank, hobject] at htexts
      exact ⟨⟨hlive, htexts, nonempty⟩, h.edit split rfl hobject rfl (by rw [blank]; rfl)⟩
    | @restyle op c extent content hextent fits =>
      rw [content, hobject] at htexts
      have hcreated : op.created? = none := by
        cases op <;> simp_all [Op.extent?, Op.created?]
      refine ⟨fits_of_extent? hextent hlive htexts (Extent.inside_of_fits fits), ?_⟩
      refine h.edit split rfl hobject hcreated ?_
      rw [content, inserted?_of_extent? hextent]
      exact (List.append_nil _).symm

theorem run {before ops : List Op} {p p' : Presentation} (h : Tracks before p)
    (hr : p.replay? ops = some p') :
    Tracks (before ++ ops) p' ∧
      ∀ mid op after, ops = mid ++ op :: after → op.Fits (before ++ mid) := by
  -- What has been carried out grows by a command in each step of the induction.
  induction ops generalizing before p with
  | nil =>
    obtain rfl := Option.some.inj hr
    exact ⟨by rwa [List.append_nil], fun mid op after hsplit => by simp at hsplit⟩
  | cons op ops ih =>
    rw [Presentation.replay?, List.foldlM_cons] at hr
    obtain ⟨p₁, hop, hops⟩ := Option.bind_eq_some_iff.1 hr
    obtain ⟨hfits, htracks⟩ := h.step (Presentation.step_of_draw? hop)
    obtain ⟨htracks, hrest⟩ := ih htracks hops
    rw [List.append_assoc, List.singleton_append] at htracks
    refine ⟨htracks, fun mid op' after hsplit => ?_⟩
    cases mid with
    | nil =>
      obtain ⟨rfl, -⟩ := List.cons.inj hsplit
      rwa [List.append_nil]
    | cons first mid =>
      obtain ⟨rfl, hmid⟩ := List.cons.inj hsplit
      have := hrest mid op' after hmid
      rwa [List.append_assoc, List.singleton_append] at this

end Tracks

theorem playable_of_replay? {ops : List Op} {p : Presentation}
    (h : Presentation.empty.replay? ops = some p) : Playable ops :=
  (Tracks.empty.run h).2

end SlideDeck.Drawing
