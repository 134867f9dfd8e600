import SlideDeck.Markup.Deck
import SlideDeck.Proofs.Text.Lines

/-! The segments of a deck are the groups of its lines between the delimiter lines. Segments that
are joined are read back one by one, each as the segments that it holds itself. -/

namespace SlideDeck.Markup

open Text (lines joinLines groups)

namespace Cut

def bodyOf : List String → Option (List Char)
  | [] => none
  | l :: ls => some (joinLines (l :: ls)).toList.reverse

theorem getD_bodyOf (ls : List String) : (bodyOf ls).getD [] = (joinLines ls).toList.reverse := by
  cases ls with
  | nil => simp [bodyOf, joinLines]
  | cons l ls => rfl

theorem bodyOf_concat (ls : List String) (l : String) :
    bodyOf (ls ++ [l]) = some (joinLines (ls ++ [l])).toList.reverse := by
  cases ls with
  | nil => rfl
  | cons k ls => rfl

theorem whole_bodyOf (done pre : List String) (l : String) :
    (⟨done, bodyOf pre, l.toList.reverse⟩ : Cut).whole = (joinLines (pre ++ [l])).toList.reverse := by
  cases pre with
  | nil => simp [whole, bodyOf, joinLines]
  | cons k ks =>
    rw [Text.joinLines_concat (List.cons_ne_nil k ks)]
    simp [whole, bodyOf]

theorem endLine_bodyOf (done pre : List String) (l : String) :
    (⟨done, bodyOf pre, l.toList.reverse⟩ : Cut).endLine =
      if isDelimiter l then ⟨joinLines pre :: done, bodyOf [], []⟩
      else ⟨done, bodyOf (pre ++ [l]), []⟩ := by
  rw [endLine, List.reverse_reverse, String.ofList_toList]
  split
  · rw [getD_bodyOf, List.reverse_reverse, String.ofList_toList]
    rfl
  · rw [whole_bodyOf, bodyOf_concat]

theorem foldl_step_line {cs : List Char} (h : '\n' ∉ cs) (c : Cut) :
    cs.foldl step c = { c with line := cs.reverse ++ c.line } := by
  induction cs generalizing c with
  | nil => rfl
  | cons x cs ih =>
    rw [List.mem_cons, not_or] at h
    have hstep : c.step x = { c with line := x :: c.line } := if_neg (Ne.symm h.1)
    rw [List.foldl_cons, hstep, ih h.2]
    simp

theorem foldl_step_newline {l : String} (h : '\n' ∉ l.toList) (done pre : List String)
    (rest : List Char) :
    (l.toList ++ '\n' :: rest).foldl step ⟨done, bodyOf pre, []⟩ =
      rest.foldl step (endLine ⟨done, bodyOf pre, l.toList.reverse⟩) := by
  have hend (c : Cut) : c.step '\n' = c.endLine := if_pos rfl
  rw [List.foldl_append, foldl_step_line h, List.append_nil, List.foldl_cons, hend]

theorem forall_concat {pre : List String} {l : String} (hpre : ∀ k ∈ pre, isDelimiter k = false)
    (hl : isDelimiter l = false) : ∀ k ∈ pre ++ [l], isDelimiter k = false := by
  intro k hk
  rcases List.mem_append.1 hk with hk | hk
  · exact hpre k hk
  · rwa [List.mem_singleton.1 hk]

theorem finish_foldl_step_last {l : String} (h : '\n' ∉ l.toList) {pre : List String}
    (hpre : ∀ k ∈ pre, isDelimiter k = false) (done : List String) :
    (l.toList.foldl step ⟨done, bodyOf pre, []⟩).finish =
      done.reverse ++ (groups isDelimiter (pre ++ [l])).map joinLines := by
  rw [foldl_step_line h, List.append_nil, finish, endLine_bodyOf]
  cases hdelim : isDelimiter l with
  | true =>
    have hgroups : groups isDelimiter (pre ++ [l]) = [pre, []] := by
      rw [Text.groups_append_cons pre [] hdelim, Text.groups_of_not hpre]
      rfl
    rw [hgroups]
    simp [bodyOf, joinLines]
  | false =>
    rw [Text.groups_of_not (forall_concat hpre hdelim)]
    simp [getD_bodyOf]

/-- What is read from a place where a line begins: `pre` are the lines of the current segment
that are complete, `ls` those that are still to come. -/
theorem finish_foldl_step {ls : List String} (hne : ls ≠ []) (hls : ∀ l ∈ ls, '\n' ∉ l.toList)
    {pre : List String} (hpre : ∀ l ∈ pre, isDelimiter l = false) (done : List String) :
    ((joinLines ls).toList.foldl step ⟨done, bodyOf pre, []⟩).finish =
      done.reverse ++ (groups isDelimiter (pre ++ ls)).map joinLines := by
  induction ls generalizing done pre with
  | nil => exact absurd rfl hne
  | cons l ls ih =>
    have hl : '\n' ∉ l.toList := hls l List.mem_cons_self
    cases ls with
    | nil =>
      have htext : joinLines [l] = l := String.intercalate_singleton
      rw [htext]
      exact finish_foldl_step_last hl hpre done
    | cons m ms =>
      have htext : (joinLines (l :: m :: ms)).toList =
          l.toList ++ '\n' :: (joinLines (m :: ms)).toList := by
        rw [joinLines, String.intercalate_cons_cons]
        simp [joinLines]
      have hrest : ∀ k ∈ m :: ms, '\n' ∉ k.toList := fun k hk =>
        hls k (List.mem_cons_of_mem _ hk)
      rw [htext, foldl_step_newline hl, endLine_bodyOf]
      cases hdelim : isDelimiter l with
      | true =>
        rw [if_pos rfl, ih (List.cons_ne_nil m ms) hrest (by simp),
          Text.groups_append_cons pre (m :: ms) hdelim, Text.groups_of_not hpre]
        simp
      | false =>
        rw [if_neg (by simp), ih (List.cons_ne_nil m ms) hrest (forall_concat hpre hdelim)]
        simp

end Cut

theorem segments_eq (deck : String) : segments deck = segmentsOfLines deck := by
  have hpre : ∀ l ∈ [], isDelimiter l = false := by simp
  have hread := Cut.finish_foldl_step (Text.lines_ne_nil deck)
    (fun _ => Text.newline_not_mem_of_mem_lines) hpre []
  rw [Text.joinLines_lines] at hread
  exact hread

/-- The segments of a deck come from its lines. The lines are the deck cut at every newline; those
that are no delimiters stand in the segments in order, and every delimiter starts a segment. -/
theorem segments_group_lines (deck : String) :
    let ls := lines deck
    let gs := groups isDelimiter ls
    segments deck = gs.map joinLines ∧
      joinLines ls = deck ∧ (∀ l ∈ ls, '\n' ∉ l.toList) ∧
      gs.flatten = (ls.filter fun l => !isDelimiter l) ∧
      (segments deck).length = ls.countP isDelimiter + 1 := by
  intro ls gs
  have hsegments : segments deck = gs.map joinLines := segments_eq deck
  refine ⟨hsegments, Text.joinLines_lines deck, fun _ => Text.newline_not_mem_of_mem_lines,
    Text.flatten_groups ls, ?_⟩
  rw [hsegments, List.length_map]
  exact Text.length_groups ls

def Undivided (s : String) : Prop := ∀ l ∈ lines s, isDelimiter l = false

theorem segments_of_undivided {s : String} (h : Undivided s) : segments s = [s] := by
  rw [segments_eq, segmentsOfLines, Text.groups_of_not h, List.map_singleton,
    Text.joinLines_lines]

theorem of_mem_lines_segment {deck s l : String} (hs : s ∈ segments deck) (hl : l ∈ lines s) :
    l = "" ∨ (l ∈ lines deck ∧ isDelimiter l = false) := by
  rw [segments_eq] at hs
  obtain ⟨g, hg, rfl⟩ := List.mem_map.1 hs
  have hmem : ∀ k ∈ g, k ∈ lines deck ∧ isDelimiter k = false := by
    intro k hk
    have hfilter : k ∈ (lines deck).filter fun l => !isDelimiter l := by
      rw [← Text.flatten_groups]
      exact List.mem_flatten_of_mem hg hk
    simpa using hfilter
  cases g with
  | nil =>
    -- An empty group is an empty text, which has a single line and that one is empty.
    exact .inl (by simpa [joinLines, lines] using hl)
  | cons k ks =>
    have hlines : lines (joinLines (k :: ks)) = k :: ks :=
      Text.lines_joinLines (List.cons_ne_nil k ks) fun l hl =>
        Text.newline_not_mem_of_mem_lines (hmem l hl).1
    rw [hlines] at hl
    exact .inr (hmem l hl)

theorem undivided_of_mem_segments {deck s : String} (h : s ∈ segments deck) : Undivided s := by
  intro l hl
  rcases of_mem_lines_segment h hl with rfl | ⟨-, hdelim⟩
  · decide
  · exact hdelim

theorem segments_append_delimiter (a b : String) :
    segments (a ++ "\n---\n" ++ b) = segments a ++ segments b := by
  have htext : a ++ "\n---\n" ++ b = a ++ "\n" ++ ("---" ++ "\n" ++ b) := by
    rw [← String.toList_inj]
    simp
  have hlines : lines (a ++ "\n---\n" ++ b) = lines a ++ "---" :: lines b := by
    have hbar : lines "---" = ["---"] := by decide
    rw [htext, Text.lines_append_newline, Text.lines_append_newline, hbar, List.singleton_append]
  have hdelim : isDelimiter "---" = true := by decide
  simp only [segments_eq, segmentsOfLines]
  rw [hlines, Text.groups_append_cons _ _ hdelim, List.map_append]

theorem segments_join {segs : List String} (h : segs ≠ []) :
    segments (join segs) = segs.flatMap segments := by
  induction segs with
  | nil => exact absurd rfl h
  | cons s segs ih =>
    cases segs with
    | nil => simp [join]
    | cons t segs =>
      have hjoin : join (s :: t :: segs) = s ++ "\n---\n" ++ join (t :: segs) :=
        String.intercalate_cons_cons
      rw [hjoin, segments_append_delimiter, ih (List.cons_ne_nil t segs)]
      exact List.flatMap_cons.symm

theorem flatMap_segments {segs : List String} (h : ∀ s ∈ segs, Undivided s) :
    segs.flatMap segments = segs := by
  have hone : ∀ s ∈ segs, segments s = [s] := fun s hs => segments_of_undivided (h s hs)
  rw [List.flatMap_congr hone]
  exact List.flatMap_singleton' segs

theorem segments_join_of_undivided {segs : List String} (h : segs ≠ [])
    (hself : ∀ s ∈ segs, Undivided s) : segments (join segs) = segs := by
  rw [segments_join h, flatMap_segments hself]

theorem segments_ne_nil (deck : String) : segments deck ≠ [] := by
  rw [segments_eq, segmentsOfLines]
  simp [groups, List.splitOnP_ne_nil]

/-- Joined segments are read back one by one, each as the segments that it holds. A segment with
no delimiter is read back as it was, and so is every segment of a deck. -/
theorem joined_segments_read_back (segs : List String) (h : segs ≠ []) :
    segments (join segs) = segs.flatMap segments ∧
      ((∀ s ∈ segs, ∀ l ∈ lines s, isDelimiter l = false) → segments (join segs) = segs) ∧
      ∀ deck, segments (join (segments deck)) = segments deck ∧
        ∀ s ∈ segments deck, ∀ l ∈ lines s, isDelimiter l = false := by
  refine ⟨segments_join h, fun hself => segments_join_of_undivided h hself, fun deck => ?_⟩
  have hself : ∀ s ∈ segments deck, Undivided s := fun s hs => undivided_of_mem_segments hs
  exact ⟨segments_join_of_undivided (segments_ne_nil deck) hself, hself⟩

theorem segments_join_nested :
    ["a\n ---\r\nb", "", "\n"] ≠ [] ∧
      segments (join ["a\n ---\r\nb", "", "\n"]) = ["a", "b", "", "\n"] ∧
      segments (join ["", "a\n", "\n"]) = ["", "a\n", "\n"] := by
  have hne : ["a\n ---\r\nb", "", "\n"] ≠ [] := by decide
  refine ⟨hne, ?_, ?_⟩
  · rw [(joined_segments_read_back _ hne).1]
    decide
  · exact (joined_segments_read_back ["", "a\n", "\n"] (by decide)).2.1 (by decide)

end SlideDeck.Markup
