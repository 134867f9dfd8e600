import Mathlib.Data.List.Nodup
import SlideDeck.Proofs.Edit.Return

/-! Sessions: a deck that is edited through the slides picked in it. The picked slides are slides of
the deck, each picked once, whatever was done before. -/

namespace SlideDeck.Edit

open Markup (segments segmentCount)

/-- What is done to a deck through the picked slides, or to the picked slides. -/
inductive Gesture
  | select (i : Nat)
  | toggle (i : Nat)
  | clear
  | add
  | delete
  | move (direction : Direction)

structure Session where
  deck : String
  selection : Selection

theorem Selection.isEmpty_iff {s : Selection} : s.isEmpty = true ↔ s.picked = [] := by
  rw [isEmpty, List.isEmpty_iff]

namespace Session

def start (deck : String) : Session := ⟨deck, .empty⟩

def act (s : Session) : Gesture → Session
  | .select i => { s with selection := s.selection.select i }
  | .toggle i => { s with selection := s.selection.toggle i }
  | .clear => { s with selection := s.selection.clear }
  | .add => ⟨(s.selection.add s.deck).1, (s.selection.add s.deck).2⟩
  | .delete => ⟨(s.selection.delete s.deck).1, (s.selection.delete s.deck).2⟩
  | .move direction =>
    ⟨(s.selection.move s.deck direction).1, (s.selection.move s.deck direction).2⟩

def Allows (s : Session) : Gesture → Prop
  | .select i => i < segmentCount s.deck
  | .toggle i => i < segmentCount s.deck
  | _ => True

instance (s : Session) : (g : Gesture) → Decidable (s.Allows g)
  | .select i => inferInstanceAs (Decidable (i < segmentCount s.deck))
  | .toggle i => inferInstanceAs (Decidable (i < segmentCount s.deck))
  | .clear => .isTrue trivial
  | .add => .isTrue trivial
  | .delete => .isTrue trivial
  | .move _ => .isTrue trivial

inductive Reachable : Session → Prop
  | start (deck : String) : Reachable (.start deck)
  | act {s : Session} {g : Gesture} (before : Reachable s) (allowed : s.Allows g) :
    Reachable (s.act g)

structure Sound (s : Session) : Prop where
  nodup : s.selection.picked.Nodup
  lt_count : ∀ i ∈ s.selection.picked, i < segmentCount s.deck

section Add

variable (s : Session)

theorem act_add : ∃ i ≤ segmentCount s.deck, (s.act .add).selection.picked = [i] ∧
    segments (s.act .add).deck = (segments s.deck).insertIdx i newSlide := by
  let i := min (s.selection.insertionIndex (segmentCount s.deck)) (segmentCount s.deck)
  have hi : i ≤ segmentCount s.deck := Nat.min_le_right _ _
  refine ⟨i, hi, rfl, ?_⟩
  rw [← splice_singleton newSlide hi]
  exact Revision.segments_revise s.deck (.add i)

theorem segmentCount_act_add : segmentCount (s.act .add).deck = segmentCount s.deck + 1 := by
  obtain ⟨i, hi, -, hsegments⟩ := s.act_add
  rw [segmentCount, hsegments, List.length_insertIdx_of_le_length hi, segmentCount]

end Add

section Delete

variable (s : Session)

theorem act_delete : s.act .delete =
    if s.selection.isEmpty then s else ⟨deleteSlides s.deck s.selection.picked, .empty⟩ := by
  by_cases h : s.selection.isEmpty = true
  · simp [act, Selection.delete, h]
  · simp [act, Selection.delete, h]

theorem picked_act_delete : (s.act .delete).selection.picked = [] := by
  rw [act_delete]
  split
  next hnone => exact Selection.isEmpty_iff.1 hnone
  next => rfl

theorem segments_act_delete : segments (s.act .delete).deck =
    Revision.atLeast "" (unlisted s.selection.picked (segments s.deck)) := by
  rw [act_delete]
  split
  next hnone =>
    obtain ⟨first, rest, hsegments⟩ := List.exists_cons_of_ne_nil (Markup.segments_ne_nil s.deck)
    rw [Selection.isEmpty_iff.1 hnone, unlisted_nil, hsegments]
    rfl
  next =>
    dsimp only
    exact Revision.segments_deleteSlides s.deck s.selection.picked

end Delete

section Move

variable {s : Session} {direction : Direction}

theorem act_move_of_stuck
    (h : stuck s.selection.picked direction (segmentCount s.deck) = true) :
    s.act (.move direction) = s := by
  have hblocked : isBlocked (ascending s.selection.picked) direction (segmentCount s.deck) = true := by
    rwa [isBlocked_ascending]
  have hmove : move? s.deck (ascending s.selection.picked) direction = none := if_pos hblocked
  simp only [act, Selection.move, hmove]

theorem act_move_of_free
    (h : stuck s.selection.picked direction (segmentCount s.deck) = false) :
    (s.act (.move direction)).selection.picked =
        shiftIndices (ascending s.selection.picked) direction ∧
      segments (s.act (.move direction)).deck =
        moved s.selection.picked direction (segments s.deck) := by
  have hfree : stuck (ascending s.selection.picked) direction (segments s.deck).length = false := by
    rwa [stuck_ascending]
  obtain ⟨text, hmove, hsegments⟩ := move?_of_free (pairwise_ascending _) hfree
  simp only [act, Selection.move, hmove, true_and]
  rw [hsegments, moved_ascending]

end Move

theorem map_getElem?_act_move (s : Session) (direction : Direction) :
    (ascending (s.act (.move direction)).selection.picked).map
        ((segments (s.act (.move direction)).deck)[·]?) =
      (ascending s.selection.picked).map ((segments s.deck)[·]?) := by
  cases h : stuck s.selection.picked direction (segmentCount s.deck) with
  | true => rw [act_move_of_stuck h]
  | false =>
    obtain ⟨hpicked, hsegments⟩ := act_move_of_free h
    have hasc := pairwise_shiftIndices (pairwise_ascending _) ((stuck_ascending ..).trans h)
    rw [hpicked, hsegments, ascending_eq_self hasc, map_getElem?_moved h]

section Sound

variable {s : Session}

theorem sound_start (deck : String) : (start deck).Sound where
  nodup := List.nodup_nil
  lt_count := by simp [start, Selection.empty]

theorem Sound.toggle (h : s.Sound) {i : Nat} (hi : i < segmentCount s.deck) :
    (s.act (.toggle i)).Sound := by
  simp only [act, Selection.toggle]
  split
  next =>
    exact ⟨h.nodup.erase i, fun j hj => h.lt_count j (List.mem_of_mem_erase hj)⟩
  next hnew =>
    have hnot : i ∉ s.selection.picked := by simpa [Selection.contains] using hnew
    refine ⟨by simpa using h.nodup.concat hnot, fun j hj => ?_⟩
    rcases List.mem_append.1 hj with hj | hj
    · exact h.lt_count j hj
    · rwa [List.mem_singleton.1 hj]

theorem sound_act_add (s : Session) : (s.act .add).Sound := by
  obtain ⟨i, hi, hpicked, -⟩ := s.act_add
  refine ⟨by simp [hpicked], fun j hj => ?_⟩
  rw [hpicked, List.mem_singleton] at hj
  rw [segmentCount_act_add]
  omega

theorem Sound.move (h : s.Sound) (direction : Direction) : (s.act (.move direction)).Sound := by
  cases hfree : stuck s.selection.picked direction (segmentCount s.deck) with
  | true => rwa [act_move_of_stuck hfree]
  | false =>
    obtain ⟨hpicked, hsegments⟩ := act_move_of_free hfree
    have hcount : segmentCount (s.act (.move direction)).deck = segmentCount s.deck := by
      rw [segmentCount, hsegments, (moved_perm _ direction (segments s.deck)).length_eq, segmentCount]
    constructor
    · rw [hpicked]
      have hasc := pairwise_shiftIndices (pairwise_ascending _) ((stuck_ascending ..).trans hfree)
      exact hasc.imp fun hij => hij.ne
    · intro i hi
      rw [hpicked, shiftIndices_eq] at hi
      obtain ⟨j, hj, rfl⟩ := List.mem_map.1 hi
      rw [hcount]
      exact beside_lt hfree (mem_ascending.1 hj)

theorem Sound.act (h : s.Sound) {g : Gesture} (allowed : s.Allows g) : (s.act g).Sound := by
  cases g with
  | select i =>
    refine ⟨List.nodup_singleton i, fun j hj => ?_⟩
    rw [List.mem_singleton.1 hj]
    exact allowed
  | toggle i => exact h.toggle allowed
  | clear => exact ⟨List.nodup_nil, fun j hj => absurd hj List.not_mem_nil⟩
  | add => exact sound_act_add s
  | delete =>
    have hpicked := picked_act_delete s
    exact ⟨by simp [hpicked], by simp [hpicked]⟩
  | move direction => exact h.move direction

theorem Reachable.sound (h : Reachable s) : s.Sound := by
  induction h with
  | start deck => exact sound_start deck
  | act _ allowed ih => exact ih.act allowed

end Sound

end Session

/-- In every session the picked slides are slides of the deck, each picked once. A new slide is
picked alone, and the others are as they were; deleting leaves the slides that were not picked, or
an empty one, with nothing picked; a move stays on the picked slides. -/
theorem picked_slides_follow (s : Session) (h : s.Reachable) :
    s.selection.picked.Nodup ∧
      (∀ i ∈ s.selection.picked, i < segmentCount s.deck) ∧
      (segmentCount (s.act .add).deck = segmentCount s.deck + 1 ∧
        ∃ i, (s.act .add).selection.picked = [i] ∧
          (segments (s.act .add).deck)[i]? = some newSlide ∧
          (segments (s.act .add).deck).eraseIdx i = segments s.deck) ∧
      (segments (s.act .delete).deck =
          Revision.atLeast "" (unlisted s.selection.picked (segments s.deck)) ∧
        (s.act .delete).selection.picked = []) ∧
      ∀ direction,
        (ascending (s.act (.move direction)).selection.picked).map
            ((segments (s.act (.move direction)).deck)[·]?) =
          (ascending s.selection.picked).map ((segments s.deck)[·]?) := by
  have hsound := h.sound
  refine ⟨hsound.nodup, hsound.lt_count, ⟨s.segmentCount_act_add, ?_⟩,
    ⟨s.segments_act_delete, s.picked_act_delete⟩, s.map_getElem?_act_move⟩
  obtain ⟨i, hi, hpicked, hsegments⟩ := s.act_add
  refine ⟨i, hpicked, ?_, ?_⟩
  · rw [hsegments, List.getElem?_insertIdx_self]
    exact if_pos hi
  · rw [hsegments, List.eraseIdx_insertIdx_self]

def Session.climbing : Session :=
  ((Session.start "a\n---\nb\n---\nc").act (.toggle 2)).act (.toggle 1) |>.act (.move .up)

theorem climbing_slides_follow :
    Session.climbing.Reachable ∧ Session.climbing.selection.picked = [0, 1] ∧
      segmentCount (Session.climbing.act .add).deck = 4 ∧
      segments (Session.climbing.act .delete).deck = ["a"] := by
  have hreach : Session.climbing.Reachable :=
    .act (.act (.act (.start _) (by decide)) (by decide)) (by decide)
  have hfollow := picked_slides_follow Session.climbing hreach
  refine ⟨hreach, by decide, ?_, ?_⟩
  · rw [hfollow.2.2.1.1]
    decide
  · rw [hfollow.2.2.2.1.1]
    decide

end SlideDeck.Edit
