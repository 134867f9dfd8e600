import Mathlib.Order.Nat
import SlideDeck.Edit.Slides

/-! Edits of a list by position, each told in one pass over the list. Inserting, deleting and
moving slides does the same to the list of segments. -/

namespace SlideDeck.Edit

section Definitions

variable {α : Type}

/-- The list with new items in front of position `i`, or at the end of a shorter list. -/
def splice (i : Nat) (new items : List α) : List α :=
  items.take (min i items.length) ++ new ++ items.drop (min i items.length)

def unlisted (listed : List Nat) (items : List α) : List α :=
  (items.zipIdx.filter fun (_, i) => !listed.contains i).map Prod.fst

def atEnd (size : Nat) : Direction → Nat → Bool
  | .up, i => i == 0
  | .down, i => i + 1 == size

/-- No position is listed, or one that is past the end or that has no neighbour. -/
def stuck (listed : List Nat) (direction : Direction) (size : Nat) : Bool :=
  listed.isEmpty || listed.any fun i => size ≤ i || atEnd size direction i

/-- Every listed item changes places with the one before it. `held` is the item that stands before
position `i` by now. -/
def upFrom (listed : List Nat) (i : Nat) (held : α) : List α → List α
  | [] => [held]
  | x :: rest =>
    if i ∈ listed then x :: upFrom listed (i + 1) held rest
    else held :: upFrom listed (i + 1) x rest

def behindFirst (x : α) : List α → List α
  | [] => [x]
  | y :: rest => y :: x :: rest

def downFrom (listed : List Nat) (i : Nat) : List α → List α
  | [] => []
  | x :: rest =>
    if i ∈ listed then behindFirst x (downFrom listed (i + 1) rest)
    else x :: downFrom listed (i + 1) rest

def moved (listed : List Nat) (direction : Direction) (items : List α) : List α :=
  if stuck listed direction items.length then items
  else
    match direction, items with
    | .up, [] => []
    | .up, x :: rest => upFrom listed 1 x rest
    | .down, items => downFrom listed 0 items

end Definitions

section Ascending

theorem mem_insertIndex {i j : Nat} {js : List Nat} : j ∈ insertIndex i js ↔ j = i ∨ j ∈ js := by
  induction js with
  | nil => simp [insertIndex]
  | cons k ks ih =>
    unfold insertIndex
    split
    · simp
    split
    next heq =>
      subst heq
      simp
    next =>
      rw [List.mem_cons, ih, List.mem_cons, or_left_comm]

theorem pairwise_insertIndex {js : List Nat} (h : js.Pairwise (· < ·)) (i : Nat) :
    (insertIndex i js).Pairwise (· < ·) := by
  induction js with
  | nil => simp [insertIndex]
  | cons k ks ih =>
    obtain ⟨hk, hks⟩ := List.pairwise_cons.1 h
    unfold insertIndex
    split
    next hlt =>
      refine List.pairwise_cons.2 ⟨fun j hj => ?_, h⟩
      rcases List.mem_cons.1 hj with rfl | hj
      · exact hlt
      · exact hlt.trans (hk j hj)
    split
    · exact h
    next hle hne =>
      refine List.pairwise_cons.2 ⟨fun j hj => ?_, ih hks⟩
      rcases mem_insertIndex.1 hj with rfl | hj
      · omega
      · exact hk j hj

theorem mem_ascending {listed : List Nat} {i : Nat} : i ∈ ascending listed ↔ i ∈ listed := by
  induction listed with
  | nil => simp [ascending]
  | cons j js ih =>
    have hcons : ascending (j :: js) = insertIndex j (ascending js) := rfl
    rw [hcons, mem_insertIndex, ih, List.mem_cons]

theorem pairwise_ascending (listed : List Nat) : (ascending listed).Pairwise (· < ·) := by
  induction listed with
  | nil => exact .nil
  | cons j js ih => exact pairwise_insertIndex ih j

theorem first_le {first : Nat} {rest : List Nat} (hasc : (first :: rest).Pairwise (· < ·)) {i : Nat}
    (hi : i ∈ first :: rest) : first ≤ i := by
  rcases List.mem_cons.1 hi with rfl | hi
  · exact le_rfl
  · exact ((List.pairwise_cons.1 hasc).1 i hi).le

theorem le_last {listed : List Nat} (hasc : listed.Pairwise (· < ·)) {last : Nat}
    (hlast : listed.getLast? = some last) {i : Nat} (hi : i ∈ listed) : i ≤ last := by
  obtain ⟨before, rfl⟩ := List.getLast?_eq_some_iff.1 hlast
  rcases List.mem_append.1 hi with hi | hi
  · exact ((List.pairwise_append.1 hasc).2.2 i hi last List.mem_cons_self).le
  · exact (List.mem_singleton.1 hi).le

theorem eq_cons_or_lt {listed : List Nat} (hasc : listed.Pairwise (· < ·)) {k : Nat}
    (hlo : ∀ i ∈ listed, k ≤ i) :
    (∃ tail, listed = k :: tail ∧ tail.Pairwise (· < ·) ∧ ∀ i ∈ tail, k < i) ∨
      ∀ i ∈ listed, k < i := by
  cases listed with
  | nil => exact .inr (by simp)
  | cons i tail =>
    obtain ⟨hi, htail⟩ := List.pairwise_cons.1 hasc
    rcases (hlo i List.mem_cons_self).eq_or_lt with rfl | hlt
    · exact .inl ⟨tail, rfl, htail, hi⟩
    · refine .inr fun j hj => ?_
      rcases List.mem_cons.1 hj with rfl | hj
      · exact hlt
      · exact hlt.trans (hi j hj)

end Ascending

section Stuck

variable {listed : List Nat} {direction : Direction} {size : Nat}

theorem stuck_congr {other : List Nat} (h : ∀ i, i ∈ listed ↔ i ∈ other) :
    stuck listed direction size = stuck other direction size := by
  have hempty : listed.isEmpty = other.isEmpty := by
    rw [Bool.eq_iff_iff, List.isEmpty_iff, List.isEmpty_iff, List.eq_nil_iff_forall_not_mem,
      List.eq_nil_iff_forall_not_mem]
    simp only [h]
  have hany : (listed.any fun i => size ≤ i || atEnd size direction i) =
      other.any fun i => size ≤ i || atEnd size direction i := by
    rw [Bool.eq_iff_iff, List.any_eq_true, List.any_eq_true]
    simp only [h]
  rw [stuck, hempty, hany, stuck]

theorem isBlocked_eq_stuck (h : listed.Pairwise (· < ·)) :
    isBlocked listed direction size = stuck listed direction size := by
  cases listed with
  | nil => rfl
  | cons first rest =>
    obtain ⟨last, hlast⟩ : ∃ last, (first :: rest).getLast? = some last :=
      ⟨_, List.getLast?_eq_some_getLast (List.cons_ne_nil first rest)⟩
    have hmem : last ∈ first :: rest := List.mem_of_getLast? hlast
    -- A position past the end puts the last one there too, and only the first one can be 0.
    rw [Bool.eq_iff_iff, isBlocked, hlast, stuck]
    simp only [List.head?_cons, List.isEmpty_cons, Bool.false_or, Bool.or_eq_true,
      List.any_eq_true, decide_eq_true_eq]
    cases direction with
    | up =>
      simp only [atEnd, beq_iff_eq]
      constructor
      · rintro (hpast | hzero)
        · exact ⟨last, hmem, .inl hpast⟩
        · exact ⟨first, List.mem_cons_self, .inr hzero⟩
      · rintro ⟨i, hi, hpast | rfl⟩
        · exact .inl (hpast.trans (le_last h hlast hi))
        · exact .inr (Nat.le_zero.1 (first_le h hi))
    | down =>
      simp only [atEnd, beq_iff_eq]
      constructor
      · rintro (hpast | hend)
        · exact ⟨last, hmem, .inl hpast⟩
        · exact ⟨last, hmem, .inr hend⟩
      · rintro ⟨i, hi, hpast | hend⟩
        · exact .inl (hpast.trans (le_last h hlast hi))
        · have hle := le_last h hlast hi
          omega

theorem isBlocked_ascending :
    isBlocked (ascending listed) direction size = stuck listed direction size := by
  rw [isBlocked_eq_stuck (pairwise_ascending listed)]
  exact stuck_congr fun _ => mem_ascending

end Stuck

section Lists

variable {α : Type}

theorem dropListed_eq (listed : List Nat) (i : Nat) (items : List α) :
    dropListed listed i items =
      ((items.zipIdx i).filter fun (_, j) => !listed.contains j).map Prod.fst := by
  induction items generalizing i with
  | nil => rfl
  | cons x items ih =>
    rw [dropListed, List.zipIdx_cons, List.filter_cons]
    by_cases hi : i ∈ listed
    · simp [hi, ih]
    · simp [hi, ih]

theorem unlisted_sublist (listed : List Nat) (items : List α) :
    (unlisted listed items).Sublist items := by
  have h : ((items.zipIdx.filter fun (_, i) => !listed.contains i).map Prod.fst).Sublist
      (items.zipIdx.map Prod.fst) := List.filter_sublist.map _
  rwa [List.zipIdx_map_fst] at h

theorem unlisted_nil (items : List α) : unlisted [] items = items := by
  have hall : (items.zipIdx.filter fun (_, i) => !([] : List Nat).contains i) = items.zipIdx :=
    List.filter_eq_self.2 fun _ _ => rfl
  rw [unlisted, hall, List.zipIdx_map_fst]

theorem insertIdx_eq {i : Nat} (x : α) {items : List α} (h : i ≤ items.length) :
    items.insertIdx i x = items.take i ++ x :: items.drop i := by
  induction i generalizing items with
  | zero => rfl
  | succ i ih =>
    cases items with
    | nil => simp at h
    | cons y items =>
      rw [List.insertIdx_succ_cons, ih (by simpa using h)]
      rfl

theorem splice_singleton {i : Nat} (x : α) {items : List α} (h : i ≤ items.length) :
    splice i [x] items = items.insertIdx i x := by
  rw [insertIdx_eq x h, splice, Nat.min_eq_left h, List.append_assoc, List.singleton_append]

theorem upFrom_congr {a b : List Nat} {i : Nat} (h : ∀ j, i ≤ j → (j ∈ a ↔ j ∈ b)) (held : α)
    (rest : List α) : upFrom a i held rest = upFrom b i held rest := by
  induction rest generalizing i held with
  | nil => rfl
  | cons x rest ih =>
    have hnext : ∀ j, i + 1 ≤ j → (j ∈ a ↔ j ∈ b) := fun j hj => h j (by omega)
    simp only [upFrom, h i le_rfl, ih hnext]

theorem downFrom_congr {a b : List Nat} {i : Nat} (h : ∀ j, i ≤ j → (j ∈ a ↔ j ∈ b))
    (items : List α) : downFrom a i items = downFrom b i items := by
  induction items generalizing i with
  | nil => rfl
  | cons x rest ih =>
    have hnext : ∀ j, i + 1 ≤ j → (j ∈ a ↔ j ∈ b) := fun j hj => h j (by omega)
    simp only [downFrom, h i le_rfl, ih hnext]

theorem upFrom_cons {k i : Nat} (h : k < i) (listed : List Nat) (held : α) (rest : List α) :
    upFrom (k :: listed) i held rest = upFrom listed i held rest := by
  refine upFrom_congr (fun j hj => ?_) held rest
  rw [List.mem_cons, or_iff_right (by omega)]

theorem downFrom_cons {k i : Nat} (h : k < i) (listed : List Nat) (items : List α) :
    downFrom (k :: listed) i items = downFrom listed i items := by
  refine downFrom_congr (fun j hj => ?_) items
  rw [List.mem_cons, or_iff_right (by omega)]

theorem swapNext_append (front : List α) (a b : α) (rest : List α) :
    swapNext front.length (front ++ a :: b :: rest) = front ++ b :: a :: rest := by
  induction front with
  | nil => rfl
  | cons x front ih => simp [swapNext, ih]

theorem foldl_swapNext (front : List α) (held : α) {listed : List Nat}
    (hasc : listed.Pairwise (· < ·)) {rest : List α} (hlo : ∀ i ∈ listed, front.length < i)
    (hhi : ∀ i ∈ listed, i ≤ front.length + rest.length) :
    listed.foldl (fun xs i => swapNext (i - 1) xs) (front ++ held :: rest) =
      front ++ upFrom listed (front.length + 1) held rest := by
  -- `front` is settled; the next listed position is the first one of `rest` or a later one.
  induction rest generalizing front held listed with
  | nil =>
    have hnone : listed = [] := by
      refine List.eq_nil_iff_forall_not_mem.2 fun i hi => ?_
      have := hlo i hi
      have := hhi i hi
      simp at this
      omega
    rw [hnone]
    rfl
  | cons x rest ih =>
    have hbound (y : α) : ∀ i ∈ listed, i ≤ (front ++ [y]).length + rest.length := by
      intro i hi
      have hi := hhi i hi
      rw [List.length_cons] at hi
      rw [List.length_append, List.length_singleton]
      omega
    rcases eq_cons_or_lt hasc hlo with ⟨tail, rfl, htail, hlt⟩ | hlt
    · have hstep : swapNext (front.length + 1 - 1) (front ++ held :: x :: rest) =
          (front ++ [x]) ++ held :: rest := by
        rw [Nat.add_sub_cancel, swapNext_append]
        simp
      have hrest := ih (front ++ [x]) held htail (by simpa using hlt)
        fun i hi => hbound x i (List.mem_cons_of_mem _ hi)
      rw [List.foldl_cons, hstep, hrest, upFrom, if_pos List.mem_cons_self, List.length_append,
        List.length_singleton, upFrom_cons (Nat.lt_succ_self _)]
      simp
    · have hsplit : front ++ held :: x :: rest = (front ++ [held]) ++ x :: rest := by simp
      have hrest := ih (front ++ [held]) x hasc (by simpa using hlt) (hbound held)
      have hnext : front.length + 1 ∉ listed := fun hmem => lt_irrefl _ (hlt _ hmem)
      rw [hsplit, hrest, upFrom, if_neg hnext]
      simp

theorem foldr_swapNext_cons {listed : List Nat} {k : Nat} (h : ∀ i ∈ listed, k < i) (x : α)
    (rest : List α) :
    listed.foldr (fun i xs => swapNext (i - k) xs) (x :: rest) =
      x :: listed.foldr (fun i xs => swapNext (i - (k + 1)) xs) rest := by
  induction listed with
  | nil => rfl
  | cons i listed ih =>
    have hi : i - k = i - (k + 1) + 1 := by
      have := h i List.mem_cons_self
      omega
    rw [List.foldr_cons, List.foldr_cons, ih fun j hj => h j (List.mem_cons_of_mem _ hj), hi,
      swapNext]

theorem swapNext_zero (x : α) (rest : List α) : swapNext 0 (x :: rest) = behindFirst x rest := by
  cases rest <;> rfl

theorem foldr_swapNext {listed : List Nat} (hasc : listed.Pairwise (· < ·)) {k : Nat}
    (hlo : ∀ i ∈ listed, k ≤ i) (items : List α) :
    listed.foldr (fun i xs => swapNext (i - k) xs) items = downFrom listed k items := by
  induction items generalizing listed k with
  | nil =>
    induction listed with
    | nil => rfl
    | cons i listed ih =>
      rw [List.foldr_cons, ih (List.pairwise_cons.1 hasc).2 fun j hj =>
        hlo j (List.mem_cons_of_mem _ hj)]
      simp [downFrom, swapNext]
  | cons x rest ih =>
    have hbeyond {l : List Nat} (hl : l.Pairwise (· < ·)) (hk : ∀ i ∈ l, k < i) :
        l.foldr (fun i xs => swapNext (i - k) xs) (x :: rest) =
          x :: downFrom l (k + 1) rest := by
      rw [foldr_swapNext_cons hk, ih hl hk]
    rcases eq_cons_or_lt hasc hlo with ⟨tail, rfl, htail, hlt⟩ | hlt
    · rw [List.foldr_cons, hbeyond htail hlt, Nat.sub_self, swapNext_zero, downFrom,
        if_pos List.mem_cons_self, downFrom_cons (Nat.lt_succ_self k)]
    · have hfirst : k ∉ listed := fun hmem => lt_irrefl _ (hlt _ hmem)
      rw [hbeyond hasc hlt, downFrom, if_neg hfirst]

theorem moved_eq (listed : List Nat) (direction : Direction) (items : List α) :
    moved listed direction items =
      if isBlocked (ascending listed) direction items.length then items
      else shift (ascending listed) direction items := by
  unfold moved
  rw [← isBlocked_ascending]
  split
  · rfl
  next hfree =>
    have hmem (j : Nat) : j ∈ listed ↔ j ∈ ascending listed := mem_ascending.symm
    rw [isBlocked_eq_stuck (pairwise_ascending listed)] at hfree
    simp only [stuck, Bool.or_eq_true, List.any_eq_true, decide_eq_true_eq, not_or, not_exists,
      not_and] at hfree
    cases direction with
    | down =>
      have hfold := foldr_swapNext (pairwise_ascending listed) (fun _ _ => Nat.zero_le _) items
      exact (downFrom_congr (fun j _ => hmem j) items).trans hfold.symm
    | up =>
      cases items with
      | nil =>
        obtain ⟨i, hi⟩ := List.exists_mem_of_ne_nil _ (by simpa using hfree.1)
        exact absurd (Nat.zero_le i) (hfree.2 i hi).1
      | cons x rest =>
        have hpos : ∀ i ∈ ascending listed, 0 < i := fun i hi =>
          Nat.pos_of_ne_zero (by simpa [atEnd] using (hfree.2 i hi).2)
        have hbound : ∀ i ∈ ascending listed, i ≤ 0 + rest.length := by
          intro i hi
          have hi := (hfree.2 i hi).1
          rw [List.length_cons] at hi
          omega
        have hfold := foldl_swapNext [] x (pairwise_ascending listed) hpos hbound
        exact (upFrom_congr (fun j _ => hmem j) x rest).trans hfold.symm

theorem upFrom_perm (listed : List Nat) (i : Nat) (held : α) (rest : List α) :
    (upFrom listed i held rest).Perm (held :: rest) := by
  induction rest generalizing i held with
  | nil => exact .refl _
  | cons x rest ih =>
    unfold upFrom
    split
    · exact ((ih (i + 1) held).cons x).trans (.swap held x rest)
    · exact (ih (i + 1) x).cons held

theorem behindFirst_perm (x : α) (items : List α) : (behindFirst x items).Perm (x :: items) := by
  cases items with
  | nil => exact .refl _
  | cons y rest => exact .swap x y rest

theorem downFrom_perm (listed : List Nat) (i : Nat) (items : List α) :
    (downFrom listed i items).Perm items := by
  induction items generalizing i with
  | nil => exact .refl _
  | cons x rest ih =>
    unfold downFrom
    split
    · exact (behindFirst_perm x _).trans ((ih (i + 1)).cons x)
    · exact (ih (i + 1)).cons x

theorem moved_perm (listed : List Nat) (direction : Direction) (items : List α) :
    (moved listed direction items).Perm items := by
  unfold moved
  split
  · exact .refl _
  split
  · exact .refl _
  · exact upFrom_perm ..
  · exact downFrom_perm ..

end Lists

section Map

variable {α β : Type} (f : α → β)

theorem map_splice (i : Nat) (new items : List α) :
    (splice i new items).map f = splice i (new.map f) (items.map f) := by
  simp [splice, List.map_take, List.map_drop]

theorem map_unlisted (listed : List Nat) (items : List α) :
    (unlisted listed items).map f = unlisted listed (items.map f) := by
  simp [unlisted, List.zipIdx_map, List.filter_map, Function.comp_def]

theorem map_upFrom (listed : List Nat) (i : Nat) (held : α) (rest : List α) :
    (upFrom listed i held rest).map f = upFrom listed i (f held) (rest.map f) := by
  induction rest generalizing i held with
  | nil => rfl
  | cons x rest ih =>
    simp only [upFrom, List.map_cons]
    split
    · rw [List.map_cons, ih]
    · rw [List.map_cons, ih]

theorem map_downFrom (listed : List Nat) (i : Nat) (items : List α) :
    (downFrom listed i items).map f = downFrom listed i (items.map f) := by
  induction items generalizing i with
  | nil => rfl
  | cons x rest ih =>
    simp only [downFrom, List.map_cons, ← ih]
    split
    · cases downFrom listed (i + 1) rest <;> rfl
    · rfl

theorem map_moved (listed : List Nat) (direction : Direction) (items : List α) :
    (moved listed direction items).map f = moved listed direction (items.map f) := by
  unfold moved
  rw [List.length_map]
  split
  · rfl
  cases direction with
  | down => exact map_downFrom f listed 0 items
  | up =>
    cases items with
    | nil => rfl
    | cons x rest => exact map_upFrom f listed 1 x rest

end Map

end SlideDeck.Edit
