import SlideDeck.Proofs.Markup.Margins
import SlideDeck.Proofs.Markup.Segments

/-! White space at the ends of lines means nothing. A document is read from the trimmed lines of its
deck alone, so that decks whose lines differ only in it are one document. -/

namespace SlideDeck.Markup

open Text (isBlank trim trimEnd endTrimmed lines length_lines joinLines groups trimmed)

theorem slide_joinLines {ls : List String} (h : ∀ l ∈ ls, '\n' ∉ l.toList) :
    slide (joinLines ls) = slideOf (ls.map trimmed) := by
  cases ls with
  | nil =>
    have hempty : Framed [] (trimmedLines (joinLines [])) := ⟨0, 1, by decide⟩
    rw [slide_eq, slideOf_framed hempty]
    rfl
  | cons l ls => rw [slide_eq, trimmedLines, Text.lines_joinLines (List.cons_ne_nil l ls) h]

theorem document_eq (deck : String) :
    document deck = ⟨(groups (· == "---") (trimmedLines deck)).map slideOf⟩ := by
  have hslide : ∀ g ∈ groups isDelimiter (lines deck),
      slide (joinLines g) = slideOf (g.map trimmed) := by
    intro g hg
    refine slide_joinLines fun l hl => ?_
    have hmem : l ∈ (groups isDelimiter (lines deck)).flatten := List.mem_flatten_of_mem hg hl
    rw [Text.flatten_groups] at hmem
    exact Text.newline_not_mem_of_mem_lines (List.mem_filter.1 hmem).1
  rw [document, segments_eq, segmentsOfLines, List.map_map, trimmedLines, Text.groups_map,
    List.map_map]
  exact congrArg Document.mk (List.map_congr_left hslide)

def withReturns (s : String) : String :=
  .ofList (s.toList.flatMap fun c => if c = '\n' then ['\r', '\n'] else [c])

def padded (pad : Nat → String × String) (s : String) : String :=
  joinLines ((lines s).mapIdx fun i l => (pad i).1 ++ l ++ (pad i).2)

theorem endTrimmed_withReturns (cs : List Char) :
    endTrimmed (cs.flatMap fun c => if c = '\n' then ['\r', '\n'] else [c]) = endTrimmed cs := by
  induction cs with
  | nil => rfl
  | cons c cs ih =>
    by_cases hc : c = '\n'
    · have hreturn : trimEnd ['\r'] = [] := by decide
      rw [List.flatMap_cons, if_pos hc, hc, List.cons_append, List.cons_append, List.nil_append,
        Text.endTrimmed_cons (by decide), Text.endTrimmed_newline, Text.endTrimmed_newline, ih,
        List.modifyHead_cons, hreturn]
    · rw [List.flatMap_cons, if_neg hc, List.singleton_append, Text.endTrimmed_cons hc,
        Text.endTrimmed_cons hc, ih]

theorem trimmedLines_withReturns (s : String) : trimmedLines (withReturns s) = trimmedLines s := by
  rw [withReturns, trimmedLines_congr (endTrimmed_withReturns s.toList), String.ofList_toList]

theorem trimmedLines_padded {pad : Nat → String × String}
    (h : ∀ i, ∀ c ∈ (pad i).1.toList ++ (pad i).2.toList, isBlank c = true ∧ c ≠ '\n') (s : String) :
    trimmedLines (padded pad s) = trimmedLines s := by
  have hlines : lines (padded pad s) = (lines s).mapIdx fun i l => (pad i).1 ++ l ++ (pad i).2 := by
    refine Text.lines_joinLines (by simpa using Text.lines_ne_nil s) fun l hl => ?_
    obtain ⟨i, hi, rfl⟩ := List.mem_mapIdx.1 hl
    have hline := Text.newline_not_mem_of_mem_lines (List.getElem_mem hi)
    have hpad : '\n' ∉ (pad i).1.toList ++ (pad i).2.toList := fun hmem => (h i _ hmem).2 rfl
    simp_all
  have htrim (i : Nat) (l : String) : trimmed ((pad i).1 ++ l ++ (pad i).2) = trimmed l := by
    have hfront : ∀ c ∈ (pad i).1.toList, isBlank c = true := fun c hc =>
      (h i c (List.mem_append_left _ hc)).1
    have hback : ∀ c ∈ (pad i).2.toList, isBlank c = true := fun c hc =>
      (h i c (List.mem_append_right _ hc)).1
    rw [← String.toList_inj, Text.toList_trimmed, Text.toList_trimmed, String.toList_append,
      String.toList_append, Text.trim_append_of_blank hback, Text.trim_of_blank_append hfront]
  rw [trimmedLines, hlines, trimmedLines]
  exact List.ext_getElem (by simp) fun i _ _ => by simp [htrim]

/-- Two decks with as many lines that differ only in the white space at the ends of the lines are
the same document. So a deck is the same document with carriage returns in front of its newlines,
and with any white space in front of its lines and behind them. -/
theorem document_ignores_padding :
    (∀ a b : String, a.toList.count '\n' = b.toList.count '\n' →
        (∀ (i : Nat) (l m : String), (lines a)[i]? = some l → (lines b)[i]? = some m →
          trimmed l = trimmed m) →
        document a = document b) ∧
      (∀ deck, document (withReturns deck) = document deck) ∧
      ∀ (deck : String) (pad : Nat → String × String),
        (∀ i, ∀ c ∈ (pad i).1.toList ++ (pad i).2.toList, isBlank c = true ∧ c ≠ '\n') →
          document (padded pad deck) = document deck := by
  refine ⟨fun a b hcount hlines => ?_, fun deck => ?_, fun deck pad h => ?_⟩
  · have hsame : trimmedLines a = trimmedLines b := by
      have hlength : (lines a).length = (lines b).length := by
        rw [length_lines, length_lines, hcount]
      refine List.ext_getElem (by simpa [trimmedLines] using hlength) fun i hi hj => ?_
      have hi' : i < (lines a).length := by simpa [trimmedLines] using hi
      have hj' : i < (lines b).length := by simpa [trimmedLines] using hj
      simpa [trimmedLines] using
        hlines i _ _ (List.getElem?_eq_getElem hi') (List.getElem?_eq_getElem hj')
    rw [document_eq, document_eq, hsame]
  · rw [document_eq, document_eq, trimmedLines_withReturns]
  · rw [document_eq, document_eq, trimmedLines_padded h]

/-- An indented deck in which a delimiter, a table and a bullet have odd line ends. -/
theorem indented_deck_same :
    "# T\n---\n| a |\n- b".toList.count '\n' =
        " # T\r\n\t---\x0b\n| a |\u2003\n- b\r".toList.count '\n' ∧
      document "# T\n---\n| a |\n- b" = document " # T\r\n\t---\x0b\n| a |\u2003\n- b\r" := by
  have hcount : "# T\n---\n| a |\n- b".toList.count '\n' =
      " # T\r\n\t---\x0b\n| a |\u2003\n- b\r".toList.count '\n' := by decide
  have ha : lines "# T\n---\n| a |\n- b" = ["# T", "---", "| a |", "- b"] := by decide
  have hb : lines " # T\r\n\t---\x0b\n| a |\u2003\n- b\r" =
      [" # T\r", "\t---\x0b", "| a |\u2003", "- b\r"] := by decide
  refine ⟨hcount, document_ignores_padding.1 _ _ hcount fun i l m hl hm => ?_⟩
  rw [ha] at hl
  rw [hb] at hm
  match i, hl, hm with
  | 0, hl, hm => cases hl; cases hm; decide
  | 1, hl, hm => cases hl; cases hm; decide
  | 2, hl, hm => cases hl; cases hm; decide
  | 3, hl, hm => cases hl; cases hm; decide
  | i + 4, hl, hm => simp at hl

end SlideDeck.Markup
