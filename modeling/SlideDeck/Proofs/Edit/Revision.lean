import SlideDeck.Proofs.Edit.Items
import SlideDeck.Proofs.Markup.Segments

/-! Revisions of a deck, one edit by slide index after the other. What they make of the deck's text
they make of its list of segments too, and of any list with an item for every slide. -/

namespace SlideDeck.Edit

open Markup (segments join)

inductive Revision
  | insert (i : Nat) (segment : String)
  | add (i : Nat)
  | delete (listed : List Nat)
  | move (listed : List Nat) (direction : Direction)

namespace Revision

def revise (deck : String) : Revision → String
  | insert i segment => insertSlide deck i segment
  | add i => addSlide deck i
  | delete listed => deleteSlides deck listed
  | move listed direction => (moveSlides deck listed direction).1

section

variable {α β : Type}

def atLeast (x : α) : List α → List α
  | [] => [x]
  | y :: items => y :: items

/-- The edit of a list with an item for every slide. `read` gives the item of a new segment. -/
def onItems (read : String → α) (items : List α) : Revision → List α
  | insert i segment => splice i ((segments segment).map read) items
  | add i => splice i [read newSlide] items
  | delete listed => atLeast (read "") (unlisted listed items)
  | move listed direction => moved listed direction items

theorem map_onItems (f : α → β) (read : String → α) (items : List α) (r : Revision) :
    (r.onItems read items).map f = r.onItems (fun s => f (read s)) (items.map f) := by
  cases r with
  | insert i segment => simp [onItems, map_splice, Function.comp_def]
  | add i => simp [onItems, map_splice]
  | delete listed =>
    simp only [onItems, ← map_unlisted]
    cases unlisted listed items <;> rfl
  | move listed direction => exact map_moved f listed direction items

theorem map_foldl_onItems (f : α → β) (read : String → α) (items : List α) (rs : List Revision) :
    (rs.foldl (onItems read) items).map f =
      rs.foldl (onItems fun s => f (read s)) (items.map f) := by
  induction rs generalizing items with
  | nil => rfl
  | cons r rs ih => rw [List.foldl_cons, ih, map_onItems, List.foldl_cons]

end

section Segments

variable (deck : String)

theorem segments_insertSlide (i : Nat) (segment : String) :
    segments (insertSlide deck i segment) = splice i (segments segment) (segments deck) := by
  have hinsert := insertIdx_eq segment (Nat.min_le_right i (segments deck).length)
  have hne : (segments deck).insertIdx (min i (segments deck).length) segment ≠ [] := by
    rw [hinsert]
    simp
  have hbefore : ((segments deck).take (min i (segments deck).length)).flatMap segments = _ :=
    Markup.flatMap_segments fun s hs => Markup.undivided_of_mem_segments (List.mem_of_mem_take hs)
  have hbehind : ((segments deck).drop (min i (segments deck).length)).flatMap segments = _ :=
    Markup.flatMap_segments fun s hs => Markup.undivided_of_mem_segments (List.mem_of_mem_drop hs)
  rw [insertSlide, Markup.segments_join hne, hinsert, List.flatMap_append, List.flatMap_cons,
    hbefore, hbehind, splice, List.append_assoc]

theorem segments_deleteSlides (listed : List Nat) :
    segments (deleteSlides deck listed) = atLeast "" (unlisted listed (segments deck)) := by
  have hdrop : dropListed listed 0 (segments deck) = unlisted listed (segments deck) :=
    dropListed_eq listed 0 (segments deck)
  have hself : ∀ s ∈ unlisted listed (segments deck), Markup.Undivided s := fun s hs =>
    Markup.undivided_of_mem_segments ((unlisted_sublist listed (segments deck)).subset hs)
  rw [deleteSlides, hdrop]
  cases hkept : unlisted listed (segments deck) with
  | nil => decide
  | cons s segs =>
    rw [hkept] at hself
    exact Markup.segments_join_of_undivided (List.cons_ne_nil s segs) hself

theorem fst_moveSlides (listed : List Nat) (direction : Direction) :
    (moveSlides deck listed direction).1 =
      if isBlocked (ascending listed) direction (segments deck).length then deck
      else join (shift (ascending listed) direction (segments deck)) := by
  simp only [moveSlides, move?]
  split
  · rfl
  · rfl

theorem segments_moveSlides (listed : List Nat) (direction : Direction) :
    segments (moveSlides deck listed direction).1 = moved listed direction (segments deck) := by
  have hperm := moved_perm listed direction (segments deck)
  rw [moved_eq] at hperm ⊢
  rw [fst_moveSlides]
  split
  · rfl
  next hfree =>
    rw [if_neg hfree] at hperm
    have hne : shift (ascending listed) direction (segments deck) ≠ [] := fun hnil =>
      Markup.segments_ne_nil deck (List.nil_perm.1 (hnil ▸ hperm))
    exact Markup.segments_join_of_undivided hne fun s hs =>
      Markup.undivided_of_mem_segments (hperm.mem_iff.1 hs)

theorem segments_revise (r : Revision) :
    segments (r.revise deck) = r.onItems id (segments deck) := by
  cases r with
  | insert i segment =>
    rw [revise, segments_insertSlide, onItems, List.map_id]
  | add i =>
    have hnew : segments newSlide = [newSlide] := by decide
    rw [revise, addSlide, segments_insertSlide, hnew]
    rfl
  | delete listed => exact segments_deleteSlides deck listed
  | move listed direction => exact segments_moveSlides deck listed direction

theorem segments_foldl_revise (rs : List Revision) :
    segments (rs.foldl revise deck) = rs.foldl (onItems id) (segments deck) := by
  induction rs generalizing deck with
  | nil => rw [List.foldl_nil, List.foldl_nil]
  | cons r rs ih => rw [List.foldl_cons, ih, segments_revise, List.foldl_cons]

end Segments

end Revision

/-- The segments of a revised deck are the revised segments, and its slides the revised slides. A
slide of the result that was in the deck before has the text that it had there: where each slide
comes from depends on the number of slides alone. -/
theorem edits_act_on_segments (deck : String) (rs : List Revision) :
    let revised := rs.foldl Revision.revise deck
    let start := (List.range (segments deck).length).map Sum.inl
    let origins : List (Nat ⊕ String) := rs.foldl (Revision.onItems Sum.inr) start
    segments revised = rs.foldl (Revision.onItems id) (segments deck) ∧
      (Markup.document revised).slides =
        rs.foldl (Revision.onItems Markup.slide) (Markup.document deck).slides ∧
      (segments revised).map some =
        origins.map (Sum.elim (fun i => (segments deck)[i]?) some) := by
  intro revised start origins
  have hsegments := Revision.segments_foldl_revise deck rs
  refine ⟨hsegments, ?_, ?_⟩
  · have hslides (d : String) : (Markup.document d).slides = (segments d).map Markup.slide := by
      rw [Markup.document]
    rw [hslides, hslides, hsegments, Revision.map_foldl_onItems]
    simp only [id]
  · have hstart : start.map (Sum.elim (fun i => (segments deck)[i]?) some) =
        (segments deck).map some := by
      apply List.ext_getElem
      · simp [start]
      · simp [start]
    rw [hsegments, Revision.map_foldl_onItems, Revision.map_foldl_onItems, hstart]
    simp only [id, Sum.elim_inr]

end SlideDeck.Edit
