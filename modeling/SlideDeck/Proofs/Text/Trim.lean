import Mathlib.Data.List.DropRight
import Mathlib.Data.List.TakeWhile
import SlideDeck.Text.Blank
import SlideDeck.Text.Lines

/-! White space at the ends of a text and of its lines. It does not matter which end is trimmed
first, nor what white space stood there. -/

namespace SlideDeck.Text

section Ends

variable {c : Char} {cs gap : List Char}

theorem trimEnd_cons (c : Char) (cs : List Char) :
    trimEnd (c :: cs) = if trimEnd cs = [] ∧ isBlank c = true then [] else c :: trimEnd cs := by
  rw [trimEnd, trimEnd, List.reverse_cons, List.dropWhile_append]
  by_cases hrest : cs.reverse.dropWhile isBlank = []
  · cases hc : isBlank c <;> simp [hrest, hc]
  · simp [hrest]

theorem getLast?_trimEnd (h : (trimEnd cs).getLast? = some c) : isBlank c = false := by
  have hlast := List.head?_dropWhile_not isBlank cs.reverse
  rw [trimEnd, List.getLast?_reverse] at h
  simpa [h] using hlast

theorem trimEnd_append_eq_ite (xs ys : List Char) :
    trimEnd (xs ++ ys) = if trimEnd ys = [] then trimEnd xs else xs ++ trimEnd ys := by
  rw [trimEnd, List.reverse_append, List.dropWhile_append]
  by_cases h : ys.reverse.dropWhile isBlank = [] <;> simp [trimEnd, h]

theorem trimEnd_concat_of_blank (h : isBlank c = true) : trimEnd (cs ++ [c]) = trimEnd cs :=
  List.rdropWhile_concat_pos isBlank cs c h

theorem trimEnd_append_of_blank (h : ∀ c ∈ gap, isBlank c = true) :
    trimEnd (cs ++ gap) = trimEnd cs := by
  induction gap using List.reverseRecOn with
  | nil => rw [List.append_nil]
  | append_singleton gap c ih =>
    rw [← List.append_assoc, trimEnd_concat_of_blank (h c (by simp))]
    exact ih fun x hx => h x (List.mem_append_left _ hx)

theorem trimStart_append_eq_ite (xs ys : List Char) :
    trimStart (xs ++ ys) = if trimStart xs = [] then trimStart ys else trimStart xs ++ ys := by
  rw [trimStart, List.dropWhile_append]
  by_cases h : xs.dropWhile isBlank = [] <;> simp [trimStart, h]

theorem trimStart_append_of_blank (h : ∀ c ∈ gap, isBlank c = true) :
    trimStart (gap ++ cs) = trimStart cs := List.dropWhile_append_of_pos h

theorem trim_eq (cs : List Char) : trim cs = trimStart (trimEnd cs) := by
  induction cs with
  | nil => rfl
  | cons c cs ih =>
    rw [trimEnd_cons]
    cases hc : isBlank c with
    | true =>
      have hstart : trim (c :: cs) = trim cs := by simp [trim, trimStart, hc]
      rw [hstart, ih]
      split
      next h => rw [h.1]
      next h => simp [trimStart, hc]
    | false => simp [trim, trimStart, hc, trimEnd_cons]

theorem trim_append_of_blank (h : ∀ c ∈ gap, isBlank c = true) : trim (cs ++ gap) = trim cs := by
  rw [trim_eq, trimEnd_append_of_blank h, ← trim_eq]

theorem trim_of_blank_append (h : ∀ c ∈ gap, isBlank c = true) : trim (gap ++ cs) = trim cs := by
  rw [trim, trimStart_append_of_blank h, ← trim]

theorem getLast?_trim (h : (trim cs).getLast? = some c) : isBlank c = false := getLast?_trimEnd h

theorem getLast?_trimmed {s : String} (h : (trimmed s).toList.getLast? = some c) :
    isBlank c = false := by
  rw [toList_trimmed] at h
  exact getLast?_trim h

theorem trim_eq_nil_iff : trim cs = [] ↔ ∀ c ∈ cs, isBlank c = true := by
  constructor
  · intro h
    have hstart : ∀ c ∈ cs.dropWhile isBlank, isBlank c = true := by
      simpa [trim, trimEnd, trimStart] using h
    intro c hc
    rw [← List.takeWhile_append_dropWhile (p := isBlank) (l := cs)] at hc
    rcases List.mem_append.1 hc with hc | hc
    · exact List.mem_takeWhile_imp hc
    · exact hstart c hc
  · intro h
    simp [trim, trimEnd, trimStart, List.dropWhile_eq_nil_iff.2 h]

theorem trimEnd_trimEnd (cs : List Char) : trimEnd (trimEnd cs) = trimEnd cs :=
  List.rdropWhile_idempotent isBlank cs

theorem trim_trimEnd (cs : List Char) : trim (trimEnd cs) = trim cs := by
  rw [trim_eq, trimEnd_trimEnd, ← trim_eq]

theorem trim_trimStart (cs : List Char) : trim (trimStart cs) = trim cs := by
  have htwice : trimStart (trimStart cs) = trimStart cs := List.dropWhile_idempotent isBlank cs
  rw [trim, htwice, ← trim]

end Ends

theorem exists_eq_append_trim (cs : List Char) : ∃ before behind,
    cs = before ++ (trim cs ++ behind) ∧
      (∀ c ∈ before, isBlank c = true) ∧ ∀ c ∈ behind, isBlank c = true := by
  refine ⟨cs.takeWhile isBlank, (trimStart cs).rtakeWhile isBlank, ?_, ?_, ?_⟩
  · have hend : trim cs ++ (trimStart cs).rtakeWhile isBlank = trimStart cs :=
      List.rdropWhile_append_rtakeWhile
    rw [hend]
    exact List.takeWhile_append_dropWhile.symm
  · exact fun c => List.mem_takeWhile_imp
  · exact fun c => List.mem_rtakeWhile_imp

theorem trim_eq_self {cs : List Char} (h : ∀ c ∈ cs, isBlank c = false) : trim cs = cs := by
  obtain ⟨before, behind, hcs, hbefore, hbehind⟩ := exists_eq_append_trim cs
  have hnone {gap : List Char} (hsub : gap ⊆ cs) (hgap : ∀ c ∈ gap, isBlank c = true) : gap = [] :=
    List.eq_nil_iff_forall_not_mem.2 fun c hc => by simpa [hgap c hc] using h c (hsub hc)
  have hfirst : before = [] := hnone (by rw [hcs]; exact List.subset_append_left _ _) hbefore
  have hlast : behind = [] := hnone (by rw [hcs]; simp) hbehind
  rw [hfirst, hlast, List.nil_append, List.append_nil] at hcs
  exact hcs.symm

theorem trim_subset (cs : List Char) : trim cs ⊆ cs := by
  obtain ⟨before, behind, hcs, -, -⟩ := exists_eq_append_trim cs
  intro c hc
  rw [hcs]
  exact List.mem_append_right _ (List.mem_append_left _ hc)

/-! ## Marks in front of a text -/

section Marks

variable {c : Char} {cs : List Char}

theorem takeWhile_eq_replicate (c : Char) (cs : List Char) :
    cs.takeWhile (· == c) = List.replicate (cs.takeWhile (· == c)).length c :=
  List.eq_replicate_of_mem fun x hx => by simpa using List.mem_takeWhile_imp hx

theorem takeWhile_replicate_append (h : cs.head? ≠ some c) (n : Nat) :
    (List.replicate n c ++ cs).takeWhile (· == c) = List.replicate n c := by
  rw [List.takeWhile_append_of_pos (by simp)]
  cases cs with
  | nil => exact List.append_nil _
  | cons x cs => simpa using h

theorem dropWhile_replicate_append (h : cs.head? ≠ some c) (n : Nat) :
    (List.replicate n c ++ cs).dropWhile (· == c) = cs := by
  rw [List.dropWhile_append_of_pos (by simp)]
  cases cs with
  | nil => rfl
  | cons x cs => exact List.dropWhile_cons_of_neg (by simpa using h)

end Marks

/-! ## The lines of a text -/

def endTrimmed (cs : List Char) : List (List Char) := (cs.splitOn '\n').map trimEnd

theorem endTrimmed_newline (cs : List Char) : endTrimmed ('\n' :: cs) = [] :: endTrimmed cs := by
  simp [endTrimmed, List.splitOn_cons_eq_if_modifyHead, trimEnd]

theorem endTrimmed_cons {c : Char} (hc : c ≠ '\n') (cs : List Char) :
    endTrimmed (c :: cs) = (endTrimmed cs).modifyHead fun l => trimEnd (c :: l) := by
  obtain ⟨l, ls, hls⟩ := List.exists_cons_of_ne_nil (List.splitOn_ne_nil '\n' cs)
  have hl : trimEnd (c :: trimEnd l) = trimEnd (c :: l) := by
    rw [trimEnd_cons, trimEnd_cons, trimEnd_trimEnd]
  simp [endTrimmed, List.splitOn_cons_eq_if_modifyHead, hc, hls, hl]

theorem endTrimmed_concat {c : Char} (hc : c ≠ '\n') (hblank : isBlank c = true)
    (cs : List Char) : endTrimmed (cs ++ [c]) = endTrimmed cs := by
  induction cs with
  | nil => simp [endTrimmed, List.splitOn_cons_eq_if_modifyHead, hc, trimEnd, hblank]
  | cons x cs ih =>
    by_cases hx : x = '\n'
    · rw [hx, List.cons_append, endTrimmed_newline, endTrimmed_newline, ih]
    · rw [List.cons_append, endTrimmed_cons hx, endTrimmed_cons hx, ih]

theorem map_trim_splitOn (cs : List Char) :
    (cs.splitOn '\n').map trim = (endTrimmed cs).map trimStart := by
  rw [endTrimmed, List.map_map]
  exact List.map_congr_left fun l _ => trim_eq l

end SlideDeck.Text
