import Mathlib.Data.List.Chain
import Mathlib.Order.Nat
import SlideDeck.Proofs.Text.Units

/-! Spans that stand one behind the other, and texts that are put together from pieces with a
separator between each two. The span of every piece, counted on from piece to piece, names that
piece of the whole; this holds at every depth, since a piece can itself be put together. -/

namespace SlideDeck

namespace Span

def Ordered (lo hi : Nat) : List Span → Prop
  | [] => lo ≤ hi
  | s :: rest => lo ≤ s.start ∧ s.start ≤ s.stop ∧ Ordered s.stop hi rest

theorem Ordered.le {lo hi : Nat} {spans : List Span} (h : Ordered lo hi spans) : lo ≤ hi := by
  induction spans generalizing lo with
  | nil => exact h
  | cons s rest ih => exact (h.1.trans h.2.1).trans (ih h.2.2)

theorem Ordered.mono {lo lo' hi hi' : Nat} {spans : List Span} (h : Ordered lo hi spans)
    (hlo : lo' ≤ lo) (hhi : hi ≤ hi') : Ordered lo' hi' spans := by
  induction spans generalizing lo lo' with
  | nil => exact (hlo.trans h).trans hhi
  | cons s rest ih => exact ⟨hlo.trans h.1, h.2.1, ih h.2.2 le_rfl⟩

theorem Ordered.append {lo mid hi : Nat} {as bs : List Span} (ha : Ordered lo mid as)
    (hb : Ordered mid hi bs) : Ordered lo hi (as ++ bs) := by
  induction as generalizing lo with
  | nil => exact hb.mono ha le_rfl
  | cons s rest ih => exact ⟨ha.1, ha.2.1, ih ha.2.2⟩

theorem Ordered.sublist {lo hi : Nat} {as bs : List Span} (h : Ordered lo hi bs)
    (hs : as.Sublist bs) : Ordered lo hi as := by
  induction hs generalizing lo with
  | slnil => exact h
  | cons s _ ih => exact (ih h.2.2).mono (h.1.trans h.2.1) le_rfl
  | cons_cons s _ ih => exact ⟨h.1, h.2.1, ih h.2.2⟩

theorem Ordered.bounds {lo hi : Nat} {spans : List Span} (h : Ordered lo hi spans) {s : Span}
    (hs : s ∈ spans) : lo ≤ s.start ∧ s.start ≤ s.stop ∧ s.stop ≤ hi := by
  induction spans generalizing lo with
  | nil => simp at hs
  | cons t rest ih =>
    rcases List.mem_cons.1 hs with rfl | hs
    · exact ⟨h.1, h.2.1, h.2.2.le⟩
    · have := ih h.2.2 hs
      have := h.1
      have := h.2.1
      omega

theorem Ordered.covers_of_mem {outer : Span} {spans : List Span}
    (h : Ordered outer.start outer.stop spans) {s : Span} (hs : s ∈ spans) {unit : Nat}
    (hcover : s.covers unit = true) : outer.covers unit = true := by
  have hbounds := h.bounds hs
  simp only [covers, Bool.and_eq_true, decide_eq_true_eq] at hcover ⊢
  omega

theorem Ordered.pairwise {lo hi : Nat} {spans : List Span} (h : Ordered lo hi spans) :
    spans.Pairwise fun s t => s.stop ≤ t.start := by
  induction spans generalizing lo with
  | nil => exact .nil
  | cons s rest ih => exact .cons (fun t ht => (h.2.2.bounds ht).1) (ih h.2.2)

theorem Ordered.filter_covers {α : Type} {f : α → Span} {lo hi : Nat} {xs : List α}
    (h : Ordered lo hi (xs.map f)) {a : α} (ha : a ∈ xs) {unit : Nat}
    (hcover : (f a).covers unit = true) : (xs.filter fun x => (f x).covers unit) = [a] := by
  simp only [covers, Bool.and_eq_true, decide_eq_true_eq] at hcover
  induction xs generalizing lo with
  | nil => simp at ha
  | cons x xs ih =>
    rw [List.filter_cons]
    rcases List.mem_cons.1 ha with rfl | ha
    · have hnone : (xs.filter fun y => (f y).covers unit) = [] := by
        refine List.filter_eq_nil_iff.2 fun y hy => ?_
        have hbehind := (h.2.2.bounds (List.mem_map_of_mem hy)).1
        simp only [covers, Bool.and_eq_true, decide_eq_true_eq, not_and]
        omega
      rw [hnone, if_pos (by simpa [covers] using hcover)]
    · have hbefore := (h.2.2.bounds (List.mem_map_of_mem ha)).1
      rw [if_neg (by simp [covers]; omega), ih h.2.2 ha]

theorem Ordered.any_covers {α : Type} {f : α → Span} {lo hi : Nat} {xs : List α}
    (h : Ordered lo hi (xs.map f)) {a : α} (ha : a ∈ xs) {unit : Nat}
    (hcover : (f a).covers unit = true) (q : α → Bool) :
    (xs.any fun x => q x && (f x).covers unit) = q a := by
  have hfilter : (xs.any fun x => q x && (f x).covers unit) =
      (xs.filter fun x => (f x).covers unit).any q := by
    rw [List.any_filter]
    simp only [Bool.and_comm]
  rw [hfilter, h.filter_covers ha hcover, List.any_cons, List.any_nil, Bool.or_false]

theorem Ordered.flatMap {α : Type} {f : α → Span} {g : α → List Span} {lo hi : Nat} {xs : List α}
    (h : Ordered lo hi (xs.map f)) (hg : ∀ a ∈ xs, Ordered (f a).start (f a).stop (g a)) :
    Ordered lo hi (xs.flatMap g) := by
  induction xs generalizing lo with
  | nil => exact h
  | cons x xs ih =>
    have hx := (hg x List.mem_cons_self).mono h.1 le_rfl
    exact hx.append (ih h.2.2 fun a ha => hg a (List.mem_cons_of_mem _ ha))

end Span

namespace Text

variable {α : Type} {text : α → String} {sep : String}

def place (text : α → String) (sep : String) (pos : Nat) : List α → List (α × Span)
  | [] => []
  | a :: as =>
    (a, ⟨pos, pos + units (text a)⟩) :: place text sep (pos + units (text a) + units sep) as

@[simp] theorem map_fst_place (pos : Nat) (as : List α) :
    (place text sep pos as).map Prod.fst = as := by
  induction as generalizing pos with
  | nil => rfl
  | cons a as ih => simp [place, ih]

theorem place_map {β : Type} (f : β → α) (pos : Nat) (bs : List β) :
    place text sep pos (bs.map f) =
      (place (fun b => text (f b)) sep pos bs).map fun (b, span) => (f b, span) := by
  induction bs generalizing pos with
  | nil => rfl
  | cons b bs ih => simp [place, ih]

theorem stop_of_mem_place {pos : Nat} {as : List α} {a : α} {span : Span}
    (h : (a, span) ∈ place text sep pos as) : span.stop = span.start + units (text a) := by
  induction as generalizing pos with
  | nil => simp [place] at h
  | cons b as ih =>
    rcases List.mem_cons.1 h with heq | h
    · obtain ⟨rfl, rfl⟩ := Prod.mk.inj heq
      rfl
    · exact ih h

theorem ordered_place (text : α → String) (sep : String) (pos : Nat) (as : List α) :
    Span.Ordered pos (pos + units (sep.intercalate (as.map text)))
      ((place text sep pos as).map Prod.snd) := by
  induction as generalizing pos with
  | nil => simp [place, Span.Ordered]
  | cons a as ih =>
    refine ⟨le_rfl, Nat.le_add_right _ _, ?_⟩
    cases as with
    | nil => simp [place, Span.Ordered]
    | cons b as =>
      refine (ih (pos + units (text a) + units sep)).mono (Nat.le_add_right _ _) ?_
      simp only [List.map_cons, String.intercalate_cons_cons, units_append]
      omega

theorem slice_of_mem_place {before : String} (after : String) {as : List α} {a : α} {span : Span}
    (h : (a, span) ∈ place text sep (units before) as) :
    span.slice (before ++ (sep.intercalate (as.map text) ++ after)) = some (text a) := by
  -- Each step of the induction adds a piece and a separator to what stands in front.
  induction as generalizing before with
  | nil => simp [place] at h
  | cons b as ih =>
    have hrest : ∃ rest, sep.intercalate ((b :: as).map text) ++ after = text b ++ rest := by
      cases as with
      | nil => exact ⟨after, by simp⟩
      | cons c as =>
        refine ⟨sep ++ (sep.intercalate ((c :: as).map text) ++ after), ?_⟩
        simp only [List.map_cons, String.intercalate_cons_cons, String.append_assoc]
    rcases List.mem_cons.1 h with h | h
    · obtain ⟨rfl, rfl⟩ := Prod.mk.inj h
      obtain ⟨rest, hr⟩ := hrest
      rw [hr]
      exact Span.slice_of_append before (text a) rest
    · cases as with
      | nil => simp [place] at h
      | cons c as =>
        have hpos : units before + units (text b) + units sep =
            units (before ++ text b ++ sep) := by simp
        rw [hpos] at h
        simpa [String.append_assoc] using ih h

theorem slice_of_mem_place_zero {as : List α} {a : α} {span : Span}
    (h : (a, span) ∈ place text sep 0 as) :
    span.slice (sep.intercalate (as.map text)) = some (text a) := by
  rw [← units_empty] at h
  simpa using slice_of_mem_place "" h

theorem slice_of_place {outer : Span} {whole : String} {as : List α} {a : α} {span : Span}
    (ho : outer.slice whole = some (sep.intercalate (as.map text)))
    (h : (a, span) ∈ place text sep outer.start as) : span.slice whole = some (text a) := by
  obtain ⟨before, after, rfl, hstart, -⟩ := Span.slice_eq_some_iff.1 ho
  rw [← hstart] at h
  exact slice_of_mem_place after h

theorem ordered_place_of_slice {outer : Span} {whole : String} {as : List α}
    (ho : outer.slice whole = some (sep.intercalate (as.map text))) :
    Span.Ordered outer.start outer.stop ((place text sep outer.start as).map Prod.snd) := by
  obtain ⟨before, after, rfl, hstart, hstop⟩ := Span.slice_eq_some_iff.1 ho
  have h := ordered_place text sep outer.start as
  rwa [← hstart, hstop, hstart] at h

theorem start_of_head?_place {pos : Nat} {as : List α} {p : α × Span}
    (h : (place text sep pos as).head? = some p) : p.2.start = pos := by
  cases as with
  | nil => simp [place] at h
  | cons a as =>
    obtain rfl := Option.some.inj h
    rfl

theorem stop_of_getLast?_place {pos : Nat} {as : List α} {p : α × Span}
    (h : (place text sep pos as).getLast? = some p) :
    p.2.stop = pos + units (sep.intercalate (as.map text)) := by
  induction as generalizing pos with
  | nil => simp [place] at h
  | cons a as ih =>
    cases as with
    | nil =>
      have hp : p = (a, ⟨pos, pos + units (text a)⟩) := (Option.some.inj h).symm
      simp [hp]
    | cons b as =>
      have hlast : (place text sep (pos + units (text a) + units sep) (b :: as)).getLast? = some p := by
        rwa [place, place, List.getLast?_cons_cons] at h
      have hunits : units (sep.intercalate ((a :: b :: as).map text)) =
          units (text a) + (units sep + units (sep.intercalate ((b :: as).map text))) := by
        simp only [List.map_cons, String.intercalate_cons_cons, units_append, Nat.add_assoc]
      have hstop := ih hlast
      omega

theorem isChain_place (before after : String) (as : List α) :
    (place text sep (units before) as).IsChain fun p q => q.2.start = p.2.stop + units sep ∧
      Span.slice ⟨p.2.stop, q.2.start⟩ (before ++ (sep.intercalate (as.map text) ++ after)) =
        some sep := by
  induction as generalizing before with
  | nil => exact .nil
  | cons a as ih =>
    cases as with
    | nil => exact .singleton _
    | cons b as =>
      have hpos : units before + units (text a) + units sep =
          units (before ++ text a ++ sep) := by simp
      have hwhole : before ++ (sep.intercalate ((a :: b :: as).map text) ++ after) =
          before ++ text a ++ sep ++ (sep.intercalate ((b :: as).map text) ++ after) := by
        simp only [List.map_cons, String.intercalate_cons_cons, String.append_assoc]
      have hsep := Span.slice_of_append (before ++ text a) sep
        (sep.intercalate ((b :: as).map text) ++ after)
      rw [units_append before, hpos, ← String.append_assoc] at hsep
      rw [place, hpos, hwhole]
      exact List.isChain_cons_cons.2 ⟨⟨hpos.symm, hsep⟩, ih (before ++ text a ++ sep)⟩

end Text

end SlideDeck
