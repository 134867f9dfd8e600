import Mathlib.Data.List.SplitBy
import SlideDeck.Proofs.Drawing.Objects

/-! The commands of a deck in groups, one group for each slide. A group begins where a new page
is created. -/

namespace SlideDeck.Drawing

def Op.isSurface : Op → Bool
  | .createSurface .. => true
  | _ => false

def groups (ops : List Op) : List (List Op) := ops.splitBy fun _ next => !next.isSurface

def IsGroup (g : List Op) : Prop :=
  ∃ first rest, g = first :: rest ∧ first.isSurface = true ∧ rest.any Op.isSurface = false

theorem groups_flatten {gs : List (List Op)} (h : ∀ g ∈ gs, IsGroup g) :
    groups gs.flatten = gs := by
  refine List.splitBy_flatten (fun hnil => ?_) (fun g hg => ?_) ?_
  · obtain ⟨_, _, hg, -⟩ := h [] hnil
    cases hg
  · obtain ⟨first, rest, rfl, -, hrest⟩ := h g hg
    rw [List.isChain_iff_forall_rel_of_append_cons_cons]
    intro a b before after hsplit
    have hb : b ∈ rest := by cases before <;> simp_all
    simp [List.any_eq_false.1 hrest b hb]
  · rw [List.isChain_iff_forall_rel_of_append_cons_cons]
    rintro a b before after rfl
    obtain ⟨_, _, rfl, -, -⟩ := h a (by simp)
    obtain ⟨first, _, rfl, hfirst, -⟩ := h b (by simp)
    exact ⟨by simp, by simp, by simp [hfirst]⟩

theorem isSurface_of_extent? {op : Op} {extent : Extent} (h : op.extent? = some extent) :
    op.isSurface = false := by
  cases op <;> simp_all [Op.extent?, Op.isSurface]

namespace Sheet

variable (s : Sheet)

theorem any_isSurface_shapes : s.shapes.any Op.isSurface = false := by
  unfold shapes
  split <;> rfl

theorem any_isSurface_title (page : Slide) : (s.title page).any Op.isSurface = false := rfl

theorem any_isSurface_caption : s.caption.any Op.isSurface = false := by
  unfold caption
  split <;> rfl

theorem any_isSurface_body (page : Slide) : (s.body page).any Op.isSurface = false := by
  have hstyles : (s.bodyStyles (.ofBlocks page.blocks)).any Op.isSurface = false := by
    refine List.any_eq_false.2 fun op hop => ?_
    rcases (s.extent_of_mem_bodyStyles hop).2 with hall | ⟨span, -, hfixed⟩
    · simp [isSurface_of_extent? hall]
    · simp [isSurface_of_extent? hfixed]
  rw [body, bodyText_eq, List.any_cons]
  split
  · rfl
  · rw [List.any_cons, hstyles]
    rfl

theorem isGroup_ops (page : Slide) : IsGroup (s.ops page) := by
  refine ⟨.createSurface (s.id .page) s.index, _, rfl, rfl, ?_⟩
  simp [Op.isSurface, s.any_isSurface_shapes, s.any_isSurface_title, s.any_isSurface_caption,
    s.any_isSurface_body]

end Sheet

theorem groups_document (doc : Document) (s : Settings) :
    groups (document doc s) =
      doc.slides.mapIdx fun i page => slide i page (s.themeFor i) s.layout s.drawing := by
  refine groups_flatten fun g hg => ?_
  obtain ⟨i, hi, rfl⟩ := List.mem_mapIdx.1 hg
  exact Sheet.isGroup_ops _ _

end SlideDeck.Drawing
