import SlideDeck.Proofs.Edit.Items

/-! Where a move takes the listed items. Each stands one place on, and the positions that are told
of them afterwards are those, in ascending order. -/

namespace SlideDeck.Edit

variable {listed : List Nat} {direction : Direction}

def Direction.beside : Direction → Nat → Nat
  | .up, i => i - 1
  | .down, i => i + 1

theorem shiftIndices_eq (js : List Nat) (direction : Direction) :
    shiftIndices js direction = js.map direction.beside := by
  cases direction <;> rfl

theorem insertIndex_of_lt {i : Nat} {js : List Nat} (h : ∀ j ∈ js, i < j) :
    insertIndex i js = i :: js := by
  cases js with
  | nil => rfl
  | cons j js => exact if_pos (h j List.mem_cons_self)

theorem ascending_eq_self {js : List Nat} (h : js.Pairwise (· < ·)) : ascending js = js := by
  induction js with
  | nil => rfl
  | cons j js ih =>
    obtain ⟨hj, hjs⟩ := List.pairwise_cons.1 h
    rw [ascending, List.foldr_cons, ← ascending, ih hjs, insertIndex_of_lt hj]

theorem stuck_ascending (listed : List Nat) (direction : Direction) (size : Nat) :
    stuck (ascending listed) direction size = stuck listed direction size :=
  stuck_congr fun _ => mem_ascending

theorem stuck_eq_false_iff {size : Nat} :
    stuck listed direction size = false ↔
      listed ≠ [] ∧ ∀ i ∈ listed, i < size ∧ atEnd size direction i = false := by
  simp [stuck, not_or]

theorem beside_lt {size i : Nat} (hfree : stuck listed direction size = false) (hi : i ∈ listed) :
    direction.beside i < size := by
  obtain ⟨hlt, hend⟩ := (stuck_eq_false_iff.1 hfree).2 i hi
  cases direction with
  | up => exact (Nat.sub_le i 1).trans_lt hlt
  | down =>
    simp only [atEnd, beq_eq_false_iff_ne] at hend
    simp only [Direction.beside]
    omega

theorem beside_lt_beside {size i j : Nat} (hfree : stuck listed direction size = false)
    (hi : i ∈ listed) (hij : i < j) : direction.beside i < direction.beside j := by
  have hend := ((stuck_eq_false_iff.1 hfree).2 i hi).2
  cases direction with
  | up =>
    simp only [atEnd, beq_eq_false_iff_ne] at hend
    simp only [Direction.beside]
    omega
  | down => exact Nat.succ_lt_succ hij

theorem pairwise_shiftIndices {size : Nat} {sorted : List Nat} (hasc : sorted.Pairwise (· < ·))
    (hfree : stuck sorted direction size = false) :
    (shiftIndices sorted direction).Pairwise (· < ·) := by
  rw [shiftIndices_eq, List.pairwise_map]
  exact hasc.imp_of_mem fun hi _ hij => beside_lt_beside hfree hi hij

section Positions

variable {α : Type}

theorem getElem?_upFrom {i j : Nat} (hj : j ∈ listed) (hij : i ≤ j) {rest : List α}
    (hlt : j < i + rest.length) (held : α) :
    (upFrom listed i held rest)[j - i]? = rest[j - i]? := by
  induction rest generalizing i held with
  | nil => exact absurd hlt (by simpa using hij)
  | cons x rest ih =>
    rw [List.length_cons] at hlt
    rcases hij.eq_or_lt with rfl | hij
    · rw [upFrom, if_pos hj, Nat.sub_self]
      rfl
    · have hnext : j - i = j - (i + 1) + 1 := by omega
      have hrest (y : α) := ih hij (by omega) y
      unfold upFrom
      rw [hnext]
      split
      · rw [List.getElem?_cons_succ, List.getElem?_cons_succ, hrest]
      · rw [List.getElem?_cons_succ, List.getElem?_cons_succ, hrest]

theorem getElem?_behindFirst (x : α) (items : List α) (k : Nat) :
    (behindFirst x items)[k + 2]? = items[k + 1]? := by
  cases items <;> rfl

theorem getElem?_downFrom {i j : Nat} (hj : j ∈ listed) (hij : i ≤ j) {items : List α}
    (hlt : j + 1 < i + items.length) :
    (downFrom listed i items)[j + 1 - i]? = items[j - i]? := by
  induction items generalizing i with
  | nil =>
    rw [List.length_nil] at hlt
    omega
  | cons x rest ih =>
    rw [List.length_cons] at hlt
    unfold downFrom
    rcases hij.eq_or_lt with rfl | hij
    · -- The listed item goes behind the first one of the rest, which is there.
      have hlength : (downFrom listed (i + 1) rest).length = rest.length :=
        (downFrom_perm listed (i + 1) rest).length_eq
      have hne : downFrom listed (i + 1) rest ≠ [] := by
        rw [← List.length_pos_iff, hlength]
        omega
      obtain ⟨y, ys, hrest⟩ := List.exists_cons_of_ne_nil hne
      rw [if_pos hj, hrest, Nat.sub_self, Nat.add_sub_cancel_left]
      rfl
    · have hnext : j - i = j - (i + 1) + 1 := by omega
      have hrest := ih hij (by omega)
      have hplace : j + 1 - (i + 1) = j - (i + 1) + 1 := by omega
      have hplace' : j + 1 - i = j - (i + 1) + 2 := by omega
      rw [hplace] at hrest
      rw [hnext, hplace', List.getElem?_cons_succ, ← hrest]
      split
      · exact getElem?_behindFirst x _ _
      · rfl

theorem moved_ascending (listed : List Nat) (direction : Direction) (items : List α) :
    moved (ascending listed) direction items = moved listed direction items := by
  rw [moved_eq, ascending_eq_self (pairwise_ascending listed), ← moved_eq]

theorem getElem?_moved {items : List α} (hfree : stuck listed direction items.length = false)
    {j : Nat} (hj : j ∈ listed) : (moved listed direction items)[direction.beside j]? = items[j]? := by
  obtain ⟨hlt, hend⟩ := (stuck_eq_false_iff.1 hfree).2 j hj
  unfold moved
  rw [if_neg (Bool.eq_false_iff.1 hfree)]
  cases direction with
  | up =>
    have hpos : 0 < j := Nat.pos_of_ne_zero (by simpa [atEnd] using hend)
    cases items with
    | nil => exact absurd hlt (Nat.not_lt_zero j)
    | cons x rest =>
      have hplace : (x :: rest)[j]? = rest[j - 1]? := by
        rw [← Nat.succ_pred_eq_of_pos hpos, List.getElem?_cons_succ]
        rfl
      rw [List.length_cons] at hlt
      rw [hplace]
      exact getElem?_upFrom hj hpos (by omega) x
  | down =>
    have hnext : j + 1 ≠ items.length := by simpa [atEnd] using hend
    exact getElem?_downFrom hj (Nat.zero_le j) (by omega)

theorem map_getElem?_moved {items : List α} (hfree : stuck listed direction items.length = false) :
    (shiftIndices (ascending listed) direction).map ((moved listed direction items)[·]?) =
      (ascending listed).map (items[·]?) := by
  rw [shiftIndices_eq, List.map_map]
  exact List.map_congr_left fun j hj => getElem?_moved hfree (mem_ascending.1 hj)

end Positions

end SlideDeck.Edit
