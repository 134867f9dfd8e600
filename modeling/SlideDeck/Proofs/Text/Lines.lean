import Mathlib.Data.List.Basic
import SlideDeck.Text.Lines

/-! Lines and groups of lines. A text and its lines determine each other, and so do the lines and
their groups but for the lines that end a group. -/

namespace SlideDeck.Text

section Split

variable {α : Type} {p : α → Bool}

theorem flatten_splitOnP (xs : List α) : (xs.splitOnP p).flatten = xs.filter fun x => !p x := by
  induction xs with
  | nil => rfl
  | cons x xs ih =>
    rw [List.splitOnP_cons_eq_if_modifyHead]
    obtain ⟨g, gs, hgs⟩ := List.exists_cons_of_ne_nil (List.splitOnP_ne_nil p xs)
    rw [hgs] at ih ⊢
    cases hx : p x with
    | true => simpa [hx] using ih
    | false => simpa [hx] using ih

theorem length_splitOnP (xs : List α) : (xs.splitOnP p).length = xs.countP p + 1 := by
  induction xs with
  | nil => rfl
  | cons x xs ih =>
    rw [List.splitOnP_cons_eq_if_modifyHead]
    cases hx : p x with
    | true => simp [hx, ih]
    | false => simp [hx, ih]

theorem splitOnP_map {β : Type} (f : β → α) (xs : List β) :
    (xs.map f).splitOnP p = (xs.splitOnP fun x => p (f x)).map (List.map f) := by
  induction xs with
  | nil => rfl
  | cons x xs ih =>
    obtain ⟨g, gs, hgs⟩ := List.exists_cons_of_ne_nil (List.splitOnP_ne_nil (fun x => p (f x)) xs)
    rw [List.map_cons, List.splitOnP_cons_eq_if_modifyHead, ih,
      List.splitOnP_cons_eq_if_modifyHead, hgs]
    cases hx : p (f x) <;> simp

theorem not_of_mem_splitOnP {xs g : List α} (hg : g ∈ xs.splitOnP p) {x : α} (hx : x ∈ g) :
    p x = false := by
  have hmem : x ∈ (xs.splitOnP p).flatten := List.mem_flatten_of_mem hg hx
  rw [flatten_splitOnP] at hmem
  simpa using (List.mem_filter.1 hmem).2

end Split

theorem lines_ne_nil (s : String) : lines s ≠ [] := by
  simp [lines, List.splitOn_ne_nil]

theorem length_lines (s : String) : (lines s).length = s.toList.count '\n' + 1 := by
  rw [lines, List.length_map, List.splitOn_eq_splitOnP, length_splitOnP, List.count]

theorem not_mem_of_mem_splitOn {cs piece : List Char} {c : Char} (h : piece ∈ cs.splitOn c) :
    c ∉ piece := by
  rw [List.splitOn_eq_splitOnP] at h
  intro hmem
  simpa using not_of_mem_splitOnP h hmem

theorem subset_of_mem_splitOn {cs piece : List Char} {c : Char} (h : piece ∈ cs.splitOn c) :
    piece ⊆ cs := by
  intro x hx
  have hmem : x ∈ (cs.splitOn c).flatten := List.mem_flatten_of_mem h hx
  rw [List.splitOn_eq_splitOnP, flatten_splitOnP] at hmem
  exact (List.mem_filter.1 hmem).1

theorem newline_not_mem_of_mem_lines {s l : String} (h : l ∈ lines s) : '\n' ∉ l.toList := by
  obtain ⟨cs, hcs, rfl⟩ := List.mem_map.1 h
  rw [String.toList_ofList]
  exact not_mem_of_mem_splitOn hcs

theorem subset_of_mem_lines {s l : String} (h : l ∈ lines s) : l.toList ⊆ s.toList := by
  obtain ⟨cs, hcs, rfl⟩ := List.mem_map.1 h
  rw [String.toList_ofList]
  exact subset_of_mem_splitOn hcs

theorem joinLines_lines (s : String) : joinLines (lines s) = s := by
  rw [← String.toList_inj, joinLines, String.toList_intercalate, lines, List.map_map]
  have hid : String.toList ∘ String.ofList = id := funext fun _ => String.toList_ofList
  rw [hid, List.map_id]
  exact List.intercalate_splitOn '\n'

theorem lines_joinLines {ls : List String} (hne : ls ≠ []) (h : ∀ l ∈ ls, '\n' ∉ l.toList) :
    lines (joinLines ls) = ls := by
  have hsplit : (joinLines ls).toList.splitOn '\n' = ls.map String.toList := by
    rw [joinLines, String.toList_intercalate]
    apply List.splitOn_intercalate
    · intro cs hcs
      obtain ⟨l, hl, rfl⟩ := List.mem_map.1 hcs
      exact h l hl
    · simpa using hne
  rw [lines, hsplit, List.map_map]
  have hid : String.ofList ∘ String.toList = id := funext fun _ => String.ofList_toList
  rw [hid, List.map_id]

theorem lines_append_newline (a b : String) : lines (a ++ "\n" ++ b) = lines a ++ lines b := by
  have hlist : (a ++ "\n" ++ b).toList = a.toList ++ '\n' :: b.toList := by simp
  rw [lines, hlist, List.splitOn_append_cons_self, List.map_append, lines, lines]

theorem take_lines {front rest : String} (h : rest = "" ∨ rest.toList.head? = some '\n') :
    (lines (front ++ rest)).take (front.toList.count '\n' + 1) = lines front := by
  rw [← length_lines]
  rcases h with rfl | h
  · rw [String.append_empty, List.take_length]
  · obtain ⟨cs, hcs⟩ := List.head?_eq_some_iff.1 h
    have hrest : front ++ rest = front ++ "\n" ++ .ofList cs := by
      rw [← String.toList_inj]
      simp [hcs]
    rw [hrest, lines_append_newline, List.take_left]

theorem joinLines_concat {ls : List String} (hne : ls ≠ []) (l : String) :
    joinLines (ls ++ [l]) = joinLines ls ++ "\n" ++ l := by
  rw [joinLines, String.intercalate_append_of_ne_nil hne (List.cons_ne_nil l []),
    String.intercalate_singleton, joinLines]

section Groups

variable {p : String → Bool}

theorem flatten_groups (ls : List String) : (groups p ls).flatten = ls.filter fun l => !p l :=
  flatten_splitOnP ls

theorem length_groups (ls : List String) : (groups p ls).length = ls.countP p + 1 :=
  length_splitOnP ls

theorem groups_map (f : String → String) (ls : List String) :
    groups p (ls.map f) = (groups (fun l => p (f l)) ls).map (List.map f) := splitOnP_map f ls

theorem groups_of_not {ls : List String} (h : ∀ l ∈ ls, p l = false) : groups p ls = [ls] :=
  List.splitOnP_eq_singleton h

theorem groups_append_cons (ls ms : List String) {l : String} (h : p l = true) :
    groups p (ls ++ l :: ms) = groups p ls ++ groups p ms := List.splitOnP_append_cons ls ms h

end Groups

end SlideDeck.Text
