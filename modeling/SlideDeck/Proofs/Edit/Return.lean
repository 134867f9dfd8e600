import SlideDeck.Edit.Selection
import SlideDeck.Proofs.Edit.Moves
import SlideDeck.Proofs.Edit.Revision

/-! Moves and the way back. A move takes every listed slide one place on and keeps the others in
order. The opposite move of the slides where they are then gives back the list as it was. -/

namespace SlideDeck.Edit

open Markup (segments segmentCount)

def Direction.opposite : Direction → Direction
  | .up => .down
  | .down => .up

def TouchesEnd (listed : List Nat) (size : Nat) : Direction → Prop
  | .up => 0 ∈ listed
  | .down => ∃ i ∈ listed, i + 1 = size

/-- There is no position in the sorted list, or one past the end, or one at the end it would be
moved to. -/
def Barred (sorted : List Nat) (direction : Direction) (size : Nat) : Prop :=
  sorted = [] ∨ (∃ last ∈ sorted.getLast?, size ≤ last) ∨ TouchesEnd sorted size direction

/-- Every listed item stands one place on, the other items are in order as before, and all items are
still there. -/
structure OnePlaceOn {α : Type} (listed : List Nat) (direction : Direction) (before after : List α) :
    Prop where
  perm : after.Perm before
  beside : ∀ i ∈ listed, ∃ x, before[i]? = some x ∧ after[direction.beside i]? = some x
  others : unlisted (listed.map direction.beside) after = unlisted listed before

section Barred

variable {sorted : List Nat} {direction : Direction} {size : Nat}

theorem exists_le_getLast?_iff (hasc : sorted.Pairwise (· < ·)) :
    (∃ last ∈ sorted.getLast?, size ≤ last) ↔ ∃ i ∈ sorted, size ≤ i := by
  constructor
  · rintro ⟨last, hlast, hle⟩
    exact ⟨last, List.mem_of_getLast? hlast, hle⟩
  · rintro ⟨i, hi, hle⟩
    have hlast := List.getLast?_eq_some_getLast (List.ne_nil_of_mem hi)
    exact ⟨_, hlast, hle.trans (le_last hasc hlast hi)⟩

theorem barred_iff (hasc : sorted.Pairwise (· < ·)) :
    Barred sorted direction size ↔ stuck sorted direction size = true := by
  have hend : TouchesEnd sorted size direction ↔ ∃ i ∈ sorted, atEnd size direction i = true := by
    cases direction <;> simp [TouchesEnd, atEnd]
  unfold Barred stuck
  rw [exists_le_getLast?_iff hasc, hend, ← exists_or]
  simp [and_or_left]

end Barred

section Opposite

variable {listed : List Nat} {direction : Direction} {size : Nat}

theorem stuck_opposite (hfree : stuck listed direction size = false) :
    stuck (shiftIndices listed direction) direction.opposite size = false := by
  obtain ⟨hne, hinside⟩ := stuck_eq_false_iff.1 hfree
  rw [shiftIndices_eq]
  refine stuck_eq_false_iff.2 ⟨by simpa using hne, fun j hj => ?_⟩
  obtain ⟨i, hi, rfl⟩ := List.mem_map.1 hj
  obtain ⟨hlt, hend⟩ := hinside i hi
  refine ⟨beside_lt hfree hi, ?_⟩
  cases direction with
  | up =>
    simp only [atEnd, beq_eq_false_iff_ne, Direction.opposite, Direction.beside] at hend ⊢
    omega
  | down => rfl

theorem shiftIndices_opposite (hfree : stuck listed direction size = false) :
    shiftIndices (shiftIndices listed direction) direction.opposite = listed := by
  rw [shiftIndices_eq, shiftIndices_eq, List.map_map]
  conv_rhs => rw [← List.map_id listed]
  refine List.map_congr_left fun i hi => ?_
  have hend := ((stuck_eq_false_iff.1 hfree).2 i hi).2
  cases direction with
  | up => exact Nat.sub_add_cancel (Nat.pos_of_ne_zero (by simpa [atEnd] using hend))
  | down => rfl

end Opposite

section Lists

variable {α : Type} {direction : Direction}

theorem swapNext_swapNext (i : Nat) (items : List α) : swapNext i (swapNext i items) = items := by
  induction i generalizing items with
  | zero => rcases items with _ | ⟨a, _ | ⟨b, rest⟩⟩ <;> rfl
  | succ i ih =>
    cases items with
    | nil => rfl
    | cons a rest => rw [swapNext, swapNext, ih]

theorem foldr_foldl_swapNext (f : Nat → Nat) (is : List Nat) (items : List α) :
    is.foldr (fun i xs => swapNext (f i) xs) (is.foldl (fun xs i => swapNext (f i) xs) items) =
      items := by
  induction is generalizing items with
  | nil => rfl
  | cons i is ih => rw [List.foldl_cons, List.foldr_cons, ih, swapNext_swapNext]

theorem foldl_foldr_swapNext (f : Nat → Nat) (is : List Nat) (items : List α) :
    is.foldl (fun xs i => swapNext (f i) xs) (is.foldr (fun i xs => swapNext (f i) xs) items) =
      items := by
  induction is with
  | nil => rfl
  | cons i is ih => rw [List.foldr_cons, List.foldl_cons, swapNext_swapNext, ih]

theorem shift_opposite (sorted : List Nat) (direction : Direction) (items : List α) :
    shift (shiftIndices sorted direction) direction.opposite (shift sorted direction items) =
      items := by
  cases direction with
  | up =>
    simp only [shift, shiftIndices, Direction.opposite, List.foldr_map]
    exact foldr_foldl_swapNext (· - 1) sorted items
  | down =>
    simp only [shift, shiftIndices, Direction.opposite, List.foldl_map, Nat.add_sub_cancel]
    exact foldl_foldr_swapNext id sorted items

variable {sorted : List Nat} {items : List α}

theorem moved_eq_shift (hasc : sorted.Pairwise (· < ·))
    (hfree : stuck sorted direction items.length = false) :
    moved sorted direction items = shift sorted direction items := by
  rw [moved_eq, ascending_eq_self hasc, isBlocked_eq_stuck hasc, hfree, if_neg Bool.false_ne_true]

theorem moved_opposite (hasc : sorted.Pairwise (· < ·))
    (hfree : stuck sorted direction items.length = false) :
    moved (shiftIndices sorted direction) direction.opposite (moved sorted direction items) =
      items := by
  have hback := stuck_opposite hfree
  rw [← (moved_perm sorted direction items).length_eq] at hback
  rw [moved_eq_shift (pairwise_shiftIndices hasc hfree) hback, moved_eq_shift hasc hfree,
    shift_opposite]

theorem dropListed_upFrom {listed shifted : List Nat} {k : Nat} {rest : List α}
    (hmem : ∀ j, k ≤ j → (j ∈ shifted ↔ j + 1 ∈ listed))
    (hlt : ∀ i ∈ listed, i < k + 1 + rest.length) (held : α) :
    dropListed shifted k (upFrom listed (k + 1) held rest) =
      held :: dropListed listed (k + 1) rest := by
  -- `held` is not listed: it lets the listed items pass until one that is not listed comes.
  induction rest generalizing k held with
  | nil =>
    have hlast : k ∉ shifted := fun h => absurd (hlt _ ((hmem k le_rfl).1 h)) (by simp)
    simp [upFrom, dropListed, hlast]
  | cons x rest ih =>
    have hmem' : ∀ j, k + 1 ≤ j → (j ∈ shifted ↔ j + 1 ∈ listed) := fun j hj =>
      hmem j (Nat.le_of_succ_le hj)
    have hlt' : ∀ i ∈ listed, i < k + 1 + 1 + rest.length := by
      intro i hi
      have hi := hlt i hi
      rw [List.length_cons] at hi
      omega
    unfold upFrom
    split
    next hk => rw [dropListed, if_pos ((hmem k le_rfl).2 hk), ih hmem' hlt', dropListed, if_pos hk]
    next hk =>
      rw [dropListed, if_neg (mt (hmem k le_rfl).1 hk), ih hmem' hlt', dropListed, if_neg hk]

theorem unlisted_eq (listed : List Nat) (items : List α) :
    unlisted listed items = dropListed listed 0 items := (dropListed_eq listed 0 items).symm

theorem unlisted_moved_up (hfree : stuck sorted .up items.length = false) :
    unlisted (shiftIndices sorted .up) (moved sorted .up items) = unlisted sorted items := by
  obtain ⟨hne, hinside⟩ := stuck_eq_false_iff.1 hfree
  have hzero : 0 ∉ sorted := fun h => by simpa [atEnd] using (hinside 0 h).2
  have hmem : ∀ j, 0 ≤ j → (j ∈ shiftIndices sorted .up ↔ j + 1 ∈ sorted) := by
    intro j _
    rw [shiftIndices, List.mem_map]
    constructor
    · rintro ⟨i, hi, rfl⟩
      have hpos : i ≠ 0 := fun h => hzero (h ▸ hi)
      rwa [Nat.sub_add_cancel (Nat.pos_of_ne_zero hpos)]
    · exact fun h => ⟨j + 1, h, rfl⟩
  cases items with
  | nil =>
    obtain ⟨i, hi⟩ := List.exists_mem_of_ne_nil _ hne
    exact absurd (hinside i hi).1 (Nat.not_lt_zero i)
  | cons x rest =>
    have hlt : ∀ i ∈ sorted, i < 0 + 1 + rest.length := by
      intro i hi
      have hi := (hinside i hi).1
      rw [List.length_cons] at hi
      omega
    have hmoved : moved sorted .up (x :: rest) = upFrom sorted 1 x rest :=
      if_neg (Bool.eq_false_iff.1 hfree)
    rw [unlisted_eq, unlisted_eq, hmoved, dropListed_upFrom hmem hlt, dropListed, if_neg hzero]

theorem unlisted_moved (hasc : sorted.Pairwise (· < ·))
    (hfree : stuck sorted direction items.length = false) :
    unlisted (shiftIndices sorted direction) (moved sorted direction items) =
      unlisted sorted items := by
  cases direction with
  | up => exact unlisted_moved_up hfree
  | down =>
    -- The list before a move down is the list after the move up that undoes it.
    have hback := stuck_opposite hfree
    rw [← (moved_perm sorted .down items).length_eq] at hback
    have hup := unlisted_moved_up hback
    have hindices : shiftIndices (shiftIndices sorted .down) .up = sorted :=
      shiftIndices_opposite hfree
    have hitems : moved (shiftIndices sorted .down) .up (moved sorted .down items) = items :=
      moved_opposite hasc hfree
    rw [← hup, hindices, hitems]

theorem onePlaceOn_moved (hasc : sorted.Pairwise (· < ·))
    (hfree : stuck sorted direction items.length = false) :
    OnePlaceOn sorted direction items (moved sorted direction items) where
  perm := moved_perm sorted direction items
  beside i hi := by
    have hlt := ((stuck_eq_false_iff.1 hfree).2 i hi).1
    have hat := List.getElem?_eq_getElem hlt
    exact ⟨items[i], hat, by rw [getElem?_moved hfree hi, hat]⟩
  others := by
    rw [← shiftIndices_eq, unlisted_moved hasc hfree]

example : moved [1, 3] .up ["a", "b", "c", "d"] = ["b", "a", "d", "c"] := by decide

end Lists

section Decks

variable {deck : String} {sorted : List Nat} {direction : Direction}

theorem move?_eq_none_iff (hasc : sorted.Pairwise (· < ·)) :
    move? deck sorted direction = none ↔ Barred sorted direction (segmentCount deck) := by
  rw [barred_iff hasc, ← isBlocked_eq_stuck hasc]
  simp [move?, segmentCount]

theorem move?_of_free (hasc : sorted.Pairwise (· < ·))
    (hfree : stuck sorted direction (segments deck).length = false) :
    ∃ text, move? deck sorted direction = some (text, shiftIndices sorted direction) ∧
      segments text = moved sorted direction (segments deck) := by
  have hsegments := Revision.segments_moveSlides deck sorted direction
  have hblocked : ¬isBlocked sorted direction (segments deck).length = true := by
    rw [isBlocked_eq_stuck hasc]
    exact Bool.eq_false_iff.1 hfree
  have hmove : move? deck sorted direction = some _ := if_neg hblocked
  rw [moveSlides, ascending_eq_self hasc, hmove] at hsegments
  exact ⟨_, hmove, hsegments⟩

theorem moveSlides_of_some {listed : List Nat} {moved : String × List Nat}
    (h : move? deck (ascending listed) direction = some moved) :
    moveSlides deck listed direction = moved := by
  rw [moveSlides, h, Option.getD_some]

theorem fst_move (s : Selection) (deck : String) (direction : Direction) :
    (s.move deck direction).1 = (moveSlides deck s.picked direction).1 := by
  simp only [Selection.move, moveSlides]
  cases move? deck (ascending s.picked) direction <;> rfl

end Decks

/-- A move is blocked if there is nothing to move, or not all of it is there, or it stands at the
end. Then nothing changes. Any other move takes the listed slides one place on, and the opposite move
takes them back. -/
theorem moves_there_and_back (deck : String) (listed : List Nat) (direction : Direction) :
    let sorted := ascending listed
    let result := moveSlides deck listed direction
    let back := moveSlides result.1 result.2 direction.opposite
    let selection := Selection.move ⟨listed⟩ deck direction
    (sorted.Pairwise (· < ·) ∧ ∀ i, i ∈ sorted ↔ i ∈ listed) ∧
      (move? deck sorted direction = none ↔ Barred sorted direction (segmentCount deck)) ∧
      selection.1 = result.1 ∧
      (Barred sorted direction (segmentCount deck) →
        result = (deck, sorted) ∧ selection.2 = ⟨listed⟩) ∧
      (¬Barred sorted direction (segmentCount deck) →
        result.2 = sorted.map direction.beside ∧ selection.2 = ⟨result.2⟩ ∧
          OnePlaceOn sorted direction (segments deck) (segments result.1) ∧
          move? result.1 (ascending result.2) direction.opposite ≠ none ∧
          segments back.1 = segments deck ∧ back.2 = sorted) := by
  intro sorted result back selection
  have hasc : sorted.Pairwise (· < ·) := pairwise_ascending listed
  refine ⟨⟨hasc, fun i => mem_ascending⟩, move?_eq_none_iff hasc, fst_move ⟨listed⟩ deck direction,
    fun hbarred => ?_, fun hopen => ?_⟩
  · have hmove : move? deck sorted direction = none := (move?_eq_none_iff hasc).2 hbarred
    constructor
    · simp only [result, moveSlides, sorted, hmove, Option.getD_none]
    · simp only [selection, Selection.move, sorted, hmove]
  · have hfree : stuck sorted direction (segments deck).length = false :=
      Bool.eq_false_iff.2 (mt (barred_iff hasc).2 hopen)
    obtain ⟨text, hmove, hsegments⟩ := move?_of_free hasc hfree
    have hresult : result = (text, shiftIndices sorted direction) := moveSlides_of_some hmove
    have hselection : selection = (text, ⟨shiftIndices sorted direction⟩) := by
      simp only [selection, Selection.move, sorted, hmove]
    have hasc' := pairwise_shiftIndices hasc hfree
    have hfree' := stuck_opposite hfree
    rw [← (moved_perm sorted direction (segments deck)).length_eq, ← hsegments] at hfree'
    obtain ⟨text', hmove', hsegments'⟩ := move?_of_free hasc' hfree'
    rw [hsegments, moved_opposite hasc hfree] at hsegments'
    rw [shiftIndices_opposite hfree, ← ascending_eq_self hasc'] at hmove'
    have hback : back = (text', sorted) := by
      simp only [back, hresult]
      exact moveSlides_of_some hmove'
    rw [hback, hselection, hresult]
    refine ⟨shiftIndices_eq .., rfl, ?_, ?_, hsegments', rfl⟩
    · rw [hsegments]
      exact onePlaceOn_moved hasc hfree
    · rw [hmove']
      exact Option.some_ne_none _

end SlideDeck.Edit
