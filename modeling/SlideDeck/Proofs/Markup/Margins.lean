import SlideDeck.Markup.Deck
import SlideDeck.Proofs.Text.Trim

/-! Margins of a segment. A segment is read as its lines without the white space around each: the
blank lines in front and behind leave nothing, and a carriage return at the end of a line is white
space. -/

namespace SlideDeck.Markup

open Text (isBlank trim trimStart trimEnd endTrimmed lines trimmed endedLines endedPieces)

def trimmedLines (segment : String) : List String := (lines segment).map trimmed

theorem trimmedLines_ofList (cs : List Char) :
    trimmedLines (.ofList cs) = ((cs.splitOn '\n').map trim).map String.ofList := by
  simp [trimmedLines, lines, trimmed]

theorem trimmedLines_congr {cs cs' : List Char} (h : endTrimmed cs = endTrimmed cs') :
    trimmedLines (.ofList cs) = trimmedLines (.ofList cs') := by
  rw [trimmedLines_ofList, trimmedLines_ofList, Text.map_trim_splitOn, h, Text.map_trim_splitOn]

/-- The second list is the first with empty lines around it. -/
def Framed (ls ms : List String) : Prop :=
  ∃ i j, ms = List.replicate i "" ++ (ls ++ List.replicate j "")

theorem Framed.trans {ls ms ns : List String} (h : Framed ls ms) (h' : Framed ms ns) :
    Framed ls ns := by
  obtain ⟨i, j, rfl⟩ := h
  obtain ⟨i', j', rfl⟩ := h'
  refine ⟨i' + i, j + j', ?_⟩
  simp only [List.replicate_add, List.append_assoc]

section Lines

variable {gap : List Char}

theorem trimmedLines_newline (cs : List Char) :
    trimmedLines (.ofList ('\n' :: cs)) = "" :: trimmedLines (.ofList cs) := by
  have hnil : trim [] = [] := rfl
  rw [trimmedLines_ofList, trimmedLines_ofList, List.splitOn_cons_eq_if_modifyHead]
  simp [hnil]

theorem trimmedLines_cons {c : Char} (hc : c ≠ '\n') (hblank : isBlank c = true)
    (cs : List Char) : trimmedLines (.ofList (c :: cs)) = trimmedLines (.ofList cs) := by
  obtain ⟨l, ls, hls⟩ := List.exists_cons_of_ne_nil (List.splitOn_ne_nil '\n' cs)
  have hl : trim (c :: l) = trim l := by
    rw [← List.singleton_append, Text.trim_of_blank_append (by simpa using hblank)]
  rw [trimmedLines_ofList, trimmedLines_ofList, List.splitOn_cons_eq_if_modifyHead]
  simp [hc, hls, hl]

theorem framed_before (h : ∀ c ∈ gap, isBlank c = true) (cs : List Char) :
    Framed (trimmedLines (.ofList cs)) (trimmedLines (.ofList (gap ++ cs))) := by
  induction gap with
  | nil => exact ⟨0, 0, by simp⟩
  | cons c gap ih =>
    have hrest := ih fun x hx => h x (List.mem_cons_of_mem _ hx)
    rw [List.cons_append]
    by_cases hc : c = '\n'
    · rw [hc, trimmedLines_newline]
      exact hrest.trans ⟨1, 0, by simp⟩
    · rwa [trimmedLines_cons hc (h c List.mem_cons_self)]

theorem framed_behind (h : ∀ c ∈ gap, isBlank c = true) (cs : List Char) :
    Framed (trimmedLines (.ofList cs)) (trimmedLines (.ofList (cs ++ gap))) := by
  induction gap using List.reverseRecOn with
  | nil => exact ⟨0, 0, by simp⟩
  | append_singleton gap c ih =>
    have hrest := ih fun x hx => h x (List.mem_append_left _ hx)
    rw [← List.append_assoc]
    by_cases hc : c = '\n'
    · have hlast : trimmedLines (.ofList (cs ++ gap ++ [c])) =
          trimmedLines (.ofList (cs ++ gap)) ++ [""] := by
        have hnil : trim [] = [] := rfl
        rw [hc, trimmedLines_ofList, List.splitOn_append_cons_self, trimmedLines_ofList]
        simp [hnil]
      rw [hlast]
      exact hrest.trans ⟨0, 1, by simp⟩
    · rwa [trimmedLines_congr (Text.endTrimmed_concat hc (h c (by simp)) (cs ++ gap))]

theorem framed_trimmed (s : String) : Framed (trimmedLines (trimmed s)) (trimmedLines s) := by
  obtain ⟨before, behind, hs, hbefore, hbehind⟩ := Text.exists_eq_append_trim s.toList
  have h := (framed_behind hbehind (trim s.toList)).trans (framed_before hbefore _)
  rwa [← hs, String.ofList_toList] at h

theorem trimmed_dropReturn (line : String) : trimmed (Text.dropReturn line) = trimmed line := by
  unfold Text.dropReturn
  split
  next h =>
    have hline : line.toList = line.toList.dropLast ++ ['\r'] :=
      (List.dropLast_append_getLast? _ h).symm
    have hblank : ∀ c ∈ ['\r'], isBlank c = true := fun c hc => by
      rw [List.mem_singleton.1 hc]
      rfl
    rw [← String.toList_inj, Text.toList_trimmed, Text.toList_trimmed, String.toList_ofList, hline,
      Text.trim_append_of_blank hblank]
    simp
  next => rfl

theorem map_trimmed_endedPieces (ls : List String) :
    ∃ j, ls.map trimmed = (endedPieces ls).map trimmed ++ List.replicate j "" := by
  fun_induction endedPieces ls with
  | case1 => exact ⟨0, rfl⟩
  | case2 last h =>
    obtain rfl : last = "" := by simpa using h
    exact ⟨1, by decide⟩
  | case3 last => exact ⟨0, by simp⟩
  | case4 l m ls ih =>
    obtain ⟨j, hj⟩ := ih
    refine ⟨j, ?_⟩
    rw [List.map_cons, hj, List.map_cons, trimmed_dropReturn, List.cons_append]

theorem framed_endedLines (segment : String) :
    Framed ((endedLines (trimmed segment)).map trimmed) (trimmedLines segment) := by
  obtain ⟨j, hj⟩ := map_trimmed_endedPieces (lines (trimmed segment))
  have hended : Framed ((endedLines (trimmed segment)).map trimmed)
      (trimmedLines (trimmed segment)) := by
    refine ⟨0, j, ?_⟩
    rwa [List.replicate_zero, List.nil_append]
  exact hended.trans (framed_trimmed segment)

end Lines

/-! ## Slides -/

section Slides

theorem Draft.flush_flush (d : Draft) : d.flush.flush = d.flush := by
  unfold flush
  split <;> rfl

theorem readLine_empty (d : Draft) : readLine d "" = d.flush := rfl

theorem foldl_readLine_replicate (d : Draft) (n : Nat) :
    ((List.replicate n "").foldl readLine d).flush = d.flush := by
  induction n generalizing d with
  | zero => rfl
  | succ n ih => rw [List.replicate_succ, List.foldl_cons, ih, readLine_empty, d.flush_flush]

theorem foldl_readLine_start (n : Nat) : (List.replicate n "").foldl readLine .start = .start := by
  induction n with
  | zero => rfl
  | succ n ih => rwa [List.replicate_succ, List.foldl_cons]

theorem slideOf_framed {ls ms : List String} (h : Framed ls ms) : slideOf ms = slideOf ls := by
  obtain ⟨i, j, rfl⟩ := h
  simp only [slideOf, List.foldl_append, foldl_readLine_start, foldl_readLine_replicate]

theorem slide_eq (segment : String) : slide segment = slideOf (trimmedLines segment) :=
  (slideOf_framed (framed_endedLines segment)).symm

end Slides

end SlideDeck.Markup
