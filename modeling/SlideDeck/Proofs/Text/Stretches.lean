import Mathlib.Data.List.SplitBy
import SlideDeck.Proofs.Text.Spans

/-! Stretches of a list: items that a test picks are put together where they follow one another. A
stretch of a text's pieces is a piece itself, and its span reaches from its first piece to its last. -/

namespace SlideDeck

namespace Span

def encloses (outer inner : Span) : Bool :=
  outer.start ≤ inner.start && inner.stop ≤ outer.stop

theorem encloses_iff {outer inner : Span} :
    outer.encloses inner = true ↔ outer.start ≤ inner.start ∧ inner.stop ≤ outer.stop := by
  simp [encloses]

theorem Ordered.encloses_of_mem {outer : Span} {spans : List Span}
    (h : Ordered outer.start outer.stop spans) {s : Span} (hs : s ∈ spans) :
    outer.encloses s = true :=
  encloses_iff.2 ⟨(h.bounds hs).1, (h.bounds hs).2.2⟩

theorem filter_encloses {α : Type} {f : α → Span} {xs : List α}
    (hapart : xs.Pairwise fun x y => (f x).stop < (f y).start) {a : α} (ha : a ∈ xs) {s : Span}
    (hs : s.start ≤ s.stop) (h : (f a).encloses s = true) :
    (xs.filter fun x => (f x).encloses s) = [a] := by
  rw [encloses_iff] at h
  induction xs with
  | nil => simp at ha
  | cons x xs ih =>
    obtain ⟨hx, hxs⟩ := List.pairwise_cons.1 hapart
    rw [List.filter_cons]
    rcases List.mem_cons.1 ha with rfl | ha
    · have hnone : (xs.filter fun y => (f y).encloses s) = [] := by
        refine List.filter_eq_nil_iff.2 fun y hy => ?_
        have hbehind := hx y hy
        rw [encloses_iff]
        omega
      rw [hnone, if_pos (encloses_iff.2 h)]
    · have hbehind := hx a ha
      rw [if_neg (by rw [encloses_iff]; omega), ih hxs ha]

end Span

namespace Text

section Stretches

variable {α β : Type} {p : α → Bool} {xs g : List α}

/-- The list with the items that `p` picks put together where they follow one another. -/
def stretchesBy (p : α → Bool) (xs : List α) : List (List α) := xs.splitBy fun a b => p a && p b

def pickedStretches (p : α → Bool) (xs : List α) : List (List α) :=
  (stretchesBy p xs).filter fun g => g.all p

theorem flatten_stretchesBy (p : α → Bool) (xs : List α) : (stretchesBy p xs).flatten = xs :=
  List.flatten_splitBy _ xs

theorem nil_notMem_stretchesBy (p : α → Bool) (xs : List α) : [] ∉ stretchesBy p xs :=
  List.nil_notMem_splitBy _ xs

theorem stretchesBy_append_cons (xs : List α) {x : α} (hx : p x = false) (ys : List α) :
    stretchesBy p (xs ++ x :: ys) = stretchesBy p xs ++ [x] :: stretchesBy p ys := by
  have hbefore : ∀ y ∈ xs.getLast?, (p y && p x) = false := by simp [hx]
  have hbehind : ∀ y ∈ [x].getLast?, ∀ z ∈ ys.head?, (p y && p z) = false := by simp [hx]
  have hrest : (x :: ys).splitBy (fun a b => p a && p b) = [x] :: stretchesBy p ys :=
    List.splitBy_append hbehind
  rw [stretchesBy, List.splitBy_append_cons ys hbefore, hrest]
  rfl

theorem stretchesBy_of_forall (hne : xs ≠ []) (h : ∀ x ∈ xs, p x = true) :
    stretchesBy p xs = [xs] := by
  refine List.splitBy_of_isChain hne ?_
  rw [List.isChain_iff_forall_rel_of_append_cons_cons]
  rintro a b before after rfl
  simp [h a (by simp), h b (by simp)]

theorem forall_of_isChain {x : α} {rest : List α} (hx : p x = true)
    (h : (x :: rest).IsChain fun a b => (p a && p b) = true) : ∀ y ∈ x :: rest, p y = true := by
  induction rest generalizing x with
  | nil => simpa using hx
  | cons y rest ih =>
    obtain ⟨hxy, hrest⟩ := List.isChain_cons_cons.1 h
    have hy : p y = true := (Bool.and_eq_true_iff.1 hxy).2
    intro z hz
    rcases List.mem_cons.1 hz with rfl | hz
    · exact hx
    · exact ih hy hrest z hz

theorem forall_or_single (hg : g ∈ stretchesBy p xs) :
    (g ≠ [] ∧ ∀ x ∈ g, p x = true) ∨ ∃ x, g = [x] ∧ p x = false := by
  have hchain := List.isChain_of_mem_splitBy hg
  obtain ⟨x, rest, rfl⟩ := List.exists_cons_of_ne_nil (List.ne_nil_of_mem_splitBy hg)
  cases hx : p x with
  | true => exact .inl ⟨List.cons_ne_nil x rest, forall_of_isChain hx hchain⟩
  | false =>
    cases rest with
    | nil => exact .inr ⟨x, rfl, hx⟩
    | cons y rest => simp [hx] at hchain

theorem isChain_stretchesBy (p : α → Bool) (xs : List α) :
    (stretchesBy p xs).IsChain fun g g' =>
      ¬((∀ x ∈ g, p x = true) ∧ ∀ x ∈ g', p x = true) := by
  refine (List.isChain_getLast_head_splitBy _ xs).imp ?_
  rintro g g' ⟨hg, hg', hbreak⟩ ⟨hall, hall'⟩
  simp [hall _ (List.getLast_mem hg), hall' _ (List.head_mem hg')] at hbreak

theorem all_of_mem_stretch (hg : g ∈ stretchesBy p xs) {x : α} (hx : x ∈ g) : g.all p = p x := by
  rcases forall_or_single hg with ⟨-, hall⟩ | ⟨y, rfl, hy⟩
  · rw [hall x hx, List.all_eq_true]
    exact hall
  · rw [List.mem_singleton.1 hx, List.all_cons, List.all_nil, Bool.and_true]

theorem stretchesBy_map (f : β → α) (ys : List β) :
    stretchesBy p (ys.map f) = (stretchesBy (fun y => p (f y)) ys).map (List.map f) := by
  refine List.splitBy_eq_iff.2 ⟨?_, ?_, ?_, ?_⟩
  · rw [← List.map_flatten, flatten_stretchesBy]
  · intro hnil
    obtain ⟨g, hg, hmap⟩ := List.mem_map.1 hnil
    exact List.ne_nil_of_mem_splitBy hg (List.map_eq_nil_iff.1 hmap)
  · intro g' hg'
    obtain ⟨g, hg, rfl⟩ := List.mem_map.1 hg'
    rw [List.isChain_map]
    exact List.isChain_of_mem_splitBy hg
  · rw [List.isChain_map]
    refine (List.isChain_getLast_head_splitBy _ ys).imp ?_
    rintro g g' ⟨hg, hg', hbreak⟩
    refine ⟨by simpa using hg, by simpa using hg', ?_⟩
    simpa only [List.getLast_map, List.head_map] using hbreak

theorem pickedStretches_append_cons (xs : List α) {x : α} (hx : p x = false) (ys : List α) :
    pickedStretches p (xs ++ x :: ys) = pickedStretches p xs ++ pickedStretches p ys := by
  rw [pickedStretches, stretchesBy_append_cons xs hx, List.filter_append, List.filter_cons_of_neg]
  · rfl
  · simp [hx]

theorem pickedStretches_of_forall (hne : xs ≠ []) (h : ∀ x ∈ xs, p x = true) :
    pickedStretches p xs = [xs] := by
  rw [pickedStretches, stretchesBy_of_forall hne h]
  exact List.filter_eq_self.2 fun g hg => by simpa [List.mem_singleton.1 hg] using h

theorem flatten_filter_all {gs : List (List α)} (h : ∀ g ∈ gs, ∀ x ∈ g, g.all p = p x) :
    (gs.filter fun g => g.all p).flatten = gs.flatten.filter p := by
  induction gs with
  | nil => rfl
  | cons g gs ih =>
    have hg := h g List.mem_cons_self
    have hrest := ih fun g' hg' => h g' (List.mem_cons_of_mem g hg')
    rw [List.flatten_cons, List.filter_append, ← hrest, List.filter_cons]
    cases hall : g.all p with
    | true =>
      have hkept : g.filter p = g := List.filter_eq_self.2 fun x hx => (hg x hx).symm.trans hall
      rw [if_pos rfl, List.flatten_cons, hkept]
    | false =>
      have hnone : g.filter p = [] :=
        List.filter_eq_nil_iff.2 fun x hx => Bool.eq_false_iff.1 ((hg x hx).symm.trans hall)
      rw [if_neg Bool.false_ne_true, hnone, List.nil_append]

theorem flatten_pickedStretches (p : α → Bool) (xs : List α) :
    (pickedStretches p xs).flatten = xs.filter p := by
  rw [pickedStretches, flatten_filter_all fun g hg x => all_of_mem_stretch hg, flatten_stretchesBy]

theorem pickedStretches_map (f : β → α) (ys : List β) :
    pickedStretches p (ys.map f) = (pickedStretches (fun y => p (f y)) ys).map (List.map f) := by
  rw [pickedStretches, stretchesBy_map, List.filter_map]
  simp only [Function.comp_def, List.all_map]
  rfl

theorem break_of_neighbours {gs gs' : List (List α)} {h : List α}
    (heq : stretchesBy p xs = gs ++ g :: h :: gs') :
    ∀ x ∈ g.getLast?, ∀ y ∈ h.head?, (p x && p y) = false := by
  have hchain := List.isChain_getLast_head_splitBy (fun a b => p a && p b) xs
  rw [← stretchesBy, heq, List.isChain_iff_forall_rel_of_append_cons_cons] at hchain
  obtain ⟨hg, hh, hbreak⟩ := hchain rfl
  intro x hx y hy
  rw [← List.getLast_of_mem_getLast? hx, ← List.head_of_mem_head? hy]
  exact hbreak

theorem not_picked_before {gs gs' : List (List α)} (heq : stretchesBy p xs = gs ++ g :: gs')
    (hpicked : ∀ x ∈ g, p x = true) : ∀ x ∈ gs.flatten.getLast?, p x = false := by
  have hnil : [] ∉ gs ++ g :: gs' := heq ▸ nil_notMem_stretchesBy p xs
  have hne : g ≠ [] := fun h => hnil (by simp [h])
  rcases List.eq_nil_or_concat' gs with rfl | ⟨init, h, rfl⟩
  · simp
  · intro x hx
    have hh : h ≠ [] := fun h => hnil (by simp [h])
    have hlast : x ∈ h.getLast? := by simpa [hh] using hx
    have hbreak := break_of_neighbours (by simpa using heq) x hlast (g.head hne)
      (List.head_mem_head? hne)
    simpa [hpicked _ (List.head_mem hne)] using hbreak

theorem not_picked_behind {gs gs' : List (List α)} (heq : stretchesBy p xs = gs ++ g :: gs')
    (hpicked : ∀ x ∈ g, p x = true) : ∀ x ∈ gs'.flatten.head?, p x = false := by
  have hnil : [] ∉ gs ++ g :: gs' := heq ▸ nil_notMem_stretchesBy p xs
  have hne : g ≠ [] := fun h => hnil (by simp [h])
  cases gs' with
  | nil => simp
  | cons h gs' =>
    intro x hx
    have hh : h ≠ [] := fun h => hnil (by simp [h])
    have hfirst : x ∈ h.head? := by simpa [hh] using hx
    have hbreak := break_of_neighbours heq (g.getLast hne) (List.getLast_mem_getLast? hne) x hfirst
    simpa [hpicked _ (List.getLast_mem hne)] using hbreak

theorem stretchesBy_around (hne : g ≠ []) (hpicked : ∀ x ∈ g, p x = true) {before behind : List α}
    (hbefore : ∀ x ∈ before.getLast?, p x = false) (hbehind : ∀ x ∈ behind.head?, p x = false) :
    stretchesBy p (before ++ (g ++ behind)) =
      stretchesBy p before ++ ([g] ++ stretchesBy p behind) := by
  rw [← stretchesBy_of_forall hne hpicked, stretchesBy, List.splitBy_append, List.splitBy_append]
  · rfl
  · intro x _ y hy
    rw [hbehind y hy, Bool.and_false]
  · intro x hx y _
    rw [hbefore x hx, Bool.false_and]

/-- A stretch of picked items is as long as can be: the items next to it are not picked. -/
theorem mem_pickedStretches_iff :
    g ∈ pickedStretches p xs ↔
      g ≠ [] ∧ (∀ x ∈ g, p x = true) ∧ ∃ before behind, xs = before ++ (g ++ behind) ∧
        (∀ x ∈ before.getLast?, p x = false) ∧ ∀ x ∈ behind.head?, p x = false := by
  constructor
  · intro hg
    obtain ⟨hg, hall⟩ := List.mem_filter.1 hg
    have hpicked : ∀ x ∈ g, p x = true := List.all_eq_true.1 hall
    obtain ⟨gs, gs', hgs⟩ := List.append_of_mem hg
    have hxs : xs = gs.flatten ++ (g ++ gs'.flatten) := by
      rw [← List.flatten_cons, ← List.flatten_append, ← hgs, flatten_stretchesBy]
    exact ⟨List.ne_nil_of_mem_splitBy hg, hpicked, gs.flatten, gs'.flatten, hxs,
      not_picked_before hgs hpicked, not_picked_behind hgs hpicked⟩
  · rintro ⟨hne, hpicked, before, behind, rfl, hbefore, hbehind⟩
    rw [pickedStretches, stretchesBy_around hne hpicked hbefore hbehind]
    exact List.mem_filter.2 ⟨by simp, List.all_eq_true.2 hpicked⟩

end Stretches

section Place

variable {α : Type} {text : α → String} {sep : String}

def joined (text : α → String) (sep : String) (g : List α) : String := sep.intercalate (g.map text)

theorem joined_append {as bs : List α} (ha : as ≠ []) (hb : bs ≠ []) :
    joined text sep (as ++ bs) = joined text sep as ++ (sep ++ joined text sep bs) := by
  rw [joined, List.map_append, String.intercalate_append_of_ne_nil (by simpa using ha)
    (by simpa using hb), String.append_assoc, joined, joined]

theorem joined_eq_empty_iff (hsep : sep ≠ "") {g : List α} (hne : g ≠ []) :
    joined text sep g = "" ↔ ∃ a, g = [a] ∧ text a = "" := by
  cases g with
  | nil => exact absurd rfl hne
  | cons a g =>
    cases g with
    | nil => simp [joined]
    | cons b g => simp [joined, hsep]

theorem intercalate_joined {gs : List (List α)} (h : [] ∉ gs) :
    sep.intercalate (gs.map (joined text sep)) = joined text sep gs.flatten := by
  induction gs with
  | nil => rfl
  | cons g gs ih =>
    obtain ⟨hg, hgs⟩ := not_or.1 (mt List.mem_cons.2 h)
    cases gs with
    | nil => simp
    | cons g' gs =>
      have hrest : (g' :: gs).flatten ≠ [] := by
        have hg' : [] ≠ g' := fun heq => hgs (heq ▸ List.mem_cons_self)
        simp [hg'.symm]
      rw [List.flatten_cons, joined_append (Ne.symm hg) hrest, ← ih hgs]
      simp only [List.map_cons, String.intercalate_cons_cons, String.append_assoc]

theorem place_append {as : List α} (h : as ≠ []) (pos : Nat) (bs : List α) :
    place text sep pos (as ++ bs) =
      place text sep pos as ++ place text sep (pos + units (joined text sep as) + units sep) bs := by
  induction as generalizing pos with
  | nil => exact absurd rfl h
  | cons a as ih =>
    cases as with
    | nil => simp [place, joined]
    | cons b as =>
      have hunits : units (joined text sep (a :: b :: as)) =
          units (text a) + (units sep + units (joined text sep (b :: as))) := by
        simp only [joined, List.map_cons, String.intercalate_cons_cons, units_append, Nat.add_assoc]
      have hpos : pos + units (text a) + units sep + units (joined text sep (b :: as)) =
          pos + units (joined text sep (a :: b :: as)) := by omega
      rw [List.cons_append, place, ih (List.cons_ne_nil b as), hpos]
      rfl

theorem place_flatten {gs : List (List α)} (h : [] ∉ gs) (pos : Nat) :
    place text sep pos gs.flatten =
      (place (joined text sep) sep pos gs).flatMap fun (g, span) =>
        place text sep span.start g := by
  induction gs generalizing pos with
  | nil => rfl
  | cons g gs ih =>
    obtain ⟨hg, hgs⟩ := not_or.1 (mt List.mem_cons.2 h)
    rw [List.flatten_cons, place_append (Ne.symm hg), ih hgs]
    rfl

theorem map_length_place (pos : Nat) (gs : List (List α)) :
    (place (joined text sep) sep pos gs).map (fun q => (place text sep q.2.start q.1).length) =
      gs.map List.length := by
  have hlength (g : List α) (n : Nat) : (place text sep n g).length = g.length := by
    rw [← List.length_map (f := Prod.fst), map_fst_place]
  induction gs generalizing pos with
  | nil => rfl
  | cons g gs ih => rw [place, List.map_cons, ih, hlength, List.map_cons]

theorem stretchesBy_place (p : α → Bool) (pos : Nat) (as : List α) :
    stretchesBy (fun q => p q.1) (place text sep pos as) =
      (place (joined text sep) sep pos (stretchesBy p as)).map fun (g, span) =>
        place text sep span.start g := by
  -- Both sides are cut out of the same list, and the groups are of the same lengths.
  refine List.eq_iff_flatten_eq.2 ⟨?_, ?_⟩
  · have hplaced : place text sep pos (stretchesBy p as).flatten = _ :=
      place_flatten (nil_notMem_stretchesBy p as) pos
    rw [flatten_stretchesBy] at hplaced
    rw [flatten_stretchesBy, hplaced, List.flatMap_def]
  · have hfst : (stretchesBy (fun q : α × Span => p q.1) (place text sep pos as)).map
        (List.map Prod.fst) = stretchesBy p as := by
      rw [← stretchesBy_map, map_fst_place]
    have hlengths : (stretchesBy p as).map List.length =
        (stretchesBy (fun q : α × Span => p q.1) (place text sep pos as)).map List.length := by
      rw [← hfst]
      simp
    rw [← hlengths, ← map_length_place pos, List.map_map]
    rfl

theorem pickedStretches_place (p : α → Bool) (pos : Nat) (as : List α) :
    pickedStretches (fun q => p q.1) (place text sep pos as) =
      ((place (joined text sep) sep pos (stretchesBy p as)).filter fun (g, _) => g.all p).map
        fun (g, span) => place text sep span.start g := by
  have hall (n : Nat) (g : List α) : (place text sep n g).all (fun q => p q.1) = g.all p := by
    have hfst : (place text sep n g).map Prod.fst = g := map_fst_place n g
    conv_rhs => rw [← hfst, List.all_map]
    rfl
  rw [pickedStretches, stretchesBy_place, List.filter_map]
  simp only [Function.comp_def, hall]

theorem pairwise_place (text : α → String) (sep : String) (pos : Nat) (as : List α) :
    (place text sep pos as).Pairwise fun p q => p.2.stop + units sep ≤ q.2.start := by
  induction as generalizing pos with
  | nil => exact .nil
  | cons a as ih =>
    refine .cons (fun q hq => ?_) (ih _)
    exact ((ordered_place text sep _ as).bounds (List.mem_map_of_mem hq)).1

end Place

end Text

end SlideDeck
