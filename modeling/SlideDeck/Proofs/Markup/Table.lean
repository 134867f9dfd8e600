import Mathlib.Data.List.Basic
import SlideDeck.Markup.Table
import SlideDeck.Proofs.Text.Lines
import SlideDeck.Proofs.Text.Trim

/-! Tables by their lines: which lines are rows, which row is a header, and what stands between the
pipes of a line. -/

namespace SlideDeck.Markup

open Text (isBlank trim trimmed)

/-! ## One character at either end

A line loses a pipe at either end and a rule loses a colon. At most one is lost on each side. -/

section Ends

variable {c : Char} {cs inner left right : List Char}

def stripEnds (c : Char) (cs : List Char) : List Char :=
  let inner := if cs.head? = some c then cs.tail else cs
  if inner.getLast? = some c then inner.dropLast else inner

theorem head?_ne_some (h : ∀ rest, cs ≠ c :: rest) : cs.head? ≠ some c := by
  intro hhead
  obtain ⟨rest, hrest⟩ := List.head?_eq_some_iff.1 hhead
  exact h rest hrest

theorem stripPipes_eq (line : List Char) : stripPipes line = stripEnds '|' line := by
  unfold stripPipes
  split
  next rest => simp [stripEnds]
  next hline => simp [stripEnds, head?_ne_some hline]

theorem isDashes_eq (cell : String) : isDashes cell =
    (!(stripEnds ':' cell.toList).isEmpty && (stripEnds ':' cell.toList).all (· == '-')) := by
  unfold isDashes
  split
  next rest hcell => simp [stripEnds, hcell]
  next hcell => simp [stripEnds, head?_ne_some hcell]

theorem exists_ends (c : Char) (cs : List Char) : ∃ left right,
    cs = left ++ (stripEnds c cs ++ right) ∧
      (left = [] ∨ left = [c]) ∧ (right = [] ∨ right = [c]) := by
  have hfront : ∃ left, cs = left ++ (if cs.head? = some c then cs.tail else cs) ∧
      (left = [] ∨ left = [c]) := by
    split
    next h =>
      obtain ⟨rest, rfl⟩ := List.head?_eq_some_iff.1 h
      exact ⟨[c], rfl, .inr rfl⟩
    next => exact ⟨[], rfl, .inl rfl⟩
  have hback (inner : List Char) : ∃ right,
      inner = (if inner.getLast? = some c then inner.dropLast else inner) ++ right ∧
        (right = [] ∨ right = [c]) := by
    split
    next h => exact ⟨[c], (List.dropLast_append_getLast? c h).symm, .inr rfl⟩
    next => exact ⟨[], (List.append_nil inner).symm, .inl rfl⟩
  obtain ⟨left, hleft, hl⟩ := hfront
  obtain ⟨right, hright, hr⟩ := hback (if cs.head? = some c then cs.tail else cs)
  refine ⟨left, right, ?_, hl, hr⟩
  rw [stripEnds, ← hright]
  exact hleft

theorem stripEnds_cons_concat (c : Char) (inner : List Char) :
    stripEnds c (c :: (inner ++ [c])) = inner := by
  simp [stripEnds]

theorem stripEnds_cons (h : inner.getLast? ≠ some c) : stripEnds c (c :: inner) = inner := by
  simp [stripEnds, h]

theorem stripEnds_append (hleft : left = [] ∨ left = [c]) (hright : right = [] ∨ right = [c])
    (hne : inner ≠ []) (hhead : inner.head? ≠ some c) (hlast : inner.getLast? ≠ some c) :
    stripEnds c (left ++ (inner ++ right)) = inner := by
  have hfront : (inner ++ right).head? ≠ some c := by
    rwa [List.head?_append_of_ne_nil inner hne]
  have hback : (if (inner ++ right).getLast? = some c then (inner ++ right).dropLast
      else inner ++ right) = inner := by
    rcases hright with rfl | rfl
    · rw [List.append_nil, if_neg hlast]
    · rw [if_pos (List.getLast?_concat), List.dropLast_concat]
  rcases hleft with rfl | rfl
  · rw [stripEnds, List.nil_append, if_neg hfront]
    exact hback
  · rw [stripEnds, List.singleton_append, if_pos (List.head?_cons), List.tail_cons]
    exact hback

end Ends

/-! ## Cells -/

/-- One or more dashes, with at most one colon in front of them and one behind. -/
def IsRule (cell : String) : Prop :=
  ∃ (left right : List Char) (dashes : Nat),
    cell.toList = left ++ (List.replicate dashes '-' ++ right) ∧ 0 < dashes ∧
      (left = [] ∨ left = [':']) ∧ (right = [] ∨ right = [':'])

theorem isDashes_iff {cell : String} : isDashes cell = true ↔ IsRule cell := by
  rw [isDashes_eq, Bool.and_eq_true, Bool.not_eq_true', List.isEmpty_eq_false_iff, List.all_eq_true]
  constructor
  · rintro ⟨hne, hall⟩
    obtain ⟨left, right, hcell, hleft, hright⟩ := exists_ends ':' cell.toList
    have hdashes : stripEnds ':' cell.toList =
        List.replicate (stripEnds ':' cell.toList).length '-' :=
      List.eq_replicate_of_mem fun x hx => by simpa using hall x hx
    refine ⟨left, right, _, ?_, List.length_pos_iff.2 hne, hleft, hright⟩
    rw [← hdashes]
    exact hcell
  · rintro ⟨left, right, dashes, hcell, hdashes, hleft, hright⟩
    have hne : List.replicate dashes '-' ≠ [] := by simpa using hdashes.ne'
    have hhead : (List.replicate dashes '-').head? ≠ some ':' := by
      simp [List.head?_replicate]
    have hlast : (List.replicate dashes '-').getLast? ≠ some ':' := by
      simp [List.getLast?_replicate]
    rw [hcell, stripEnds_append hleft hright hne hhead hlast]
    exact ⟨hne, by simp⟩

theorem isSeparator_iff {line : String} :
    isSeparator line = true ↔ ∀ cell ∈ cells line, IsRule cell := by
  rw [isSeparator, List.all_eq_true]
  exact forall₂_congr fun _ _ => isDashes_iff

theorem cells_ne_nil (line : String) : cells line ≠ [] := by
  simp [cells, List.splitOn_ne_nil]

theorem cells_of_pieces {line : String} {pieces : List (List Char)} (hne : pieces ≠ [])
    (hpipe : ∀ piece ∈ pieces, '|' ∉ piece)
    (hline : stripPipes line.toList = ['|'].intercalate pieces) :
    cells line = pieces.map fun piece => .ofList (trim piece) := by
  rw [cells, hline, List.splitOn_intercalate '|' hpipe hne]

/-- The line is a pipe and these pieces, with a pipe between each two and maybe one at the end. -/
def InPipes (line : String) (pieces : List (List Char)) : Prop :=
  (∀ piece ∈ pieces, '|' ∉ piece) ∧ ∃ right,
    line.toList = '|' :: (['|'].intercalate pieces ++ right) ∧
      (right = ['|'] ∨ right = [] ∧ (['|'].intercalate pieces).getLast? ≠ some '|')

theorem exists_pieces {line : String} (h : line.toList.head? = some '|') :
    ∃ pieces, InPipes line pieces ∧ cells line = pieces.map fun piece => .ofList (trim piece) := by
  obtain ⟨rest, hline⟩ := List.head?_eq_some_iff.1 h
  have hpieces : ['|'].intercalate ((stripPipes line.toList).splitOn '|') = stripPipes line.toList :=
    List.intercalate_splitOn '|'
  have hpipe : ∀ piece ∈ (stripPipes line.toList).splitOn '|', '|' ∉ piece :=
    fun _ => Text.not_mem_of_mem_splitOn
  by_cases hlast : rest.getLast? = some '|'
  · have hstrip : stripPipes line.toList ++ ['|'] = rest := by
      rw [stripPipes_eq, hline, ← List.dropLast_append_getLast? '|' hlast, stripEnds_cons_concat]
    refine ⟨_, ⟨hpipe, ['|'], ?_, .inl rfl⟩, rfl⟩
    rw [hpieces, hstrip, hline]
  · have hstrip : stripPipes line.toList = rest := by
      rw [stripPipes_eq, hline, stripEnds_cons hlast]
    refine ⟨_, ⟨hpipe, [], ?_, .inr ⟨rfl, ?_⟩⟩, rfl⟩
    · rw [hpieces, hstrip, hline, List.append_nil]
    · rwa [hpieces, hstrip]

theorem intercalate_spaced {texts : List (List Char)} (hne : texts ≠ []) :
    ['|'].intercalate (texts.map fun text => ' ' :: (text ++ [' '])) =
      ' ' :: ([' ', '|', ' '].intercalate texts ++ [' ']) := by
  induction texts with
  | nil => exact absurd rfl hne
  | cons text texts ih =>
    cases texts with
    | nil => simp
    | cons next texts =>
      have hnext := ih (List.cons_ne_nil next texts)
      rw [List.map_cons] at hnext
      rw [List.map_cons, List.map_cons, List.intercalate_cons_cons, hnext, List.intercalate_cons_cons]
      simp

theorem trim_spaced (text : List Char) : trim (' ' :: (text ++ [' '])) = trim text := by
  have hspace : ∀ c ∈ [' '], isBlank c = true := List.forall_mem_singleton.2 rfl
  rw [← List.singleton_append, Text.trim_of_blank_append hspace, Text.trim_append_of_blank hspace]

theorem cells_spaced {texts : List String} (hne : texts ≠ [])
    (h : ∀ text ∈ texts, trimmed text = text ∧ '|' ∉ text.toList) :
    cells ("| " ++ " | ".intercalate texts ++ " |") = texts := by
  have hline : ("| " ++ " | ".intercalate texts ++ " |").toList =
      '|' :: ((' ' :: ([' ', '|', ' '].intercalate (texts.map String.toList) ++ [' '])) ++ ['|']) := by
    simp [String.toList_intercalate]
  have hpieces : (texts.map String.toList).map (fun text => ' ' :: (text ++ [' '])) ≠ [] := by
    simpa using hne
  have hpipe : ∀ piece ∈ (texts.map String.toList).map (fun text => ' ' :: (text ++ [' '])),
      '|' ∉ piece := by
    intro piece hpiece
    simp only [List.map_map, List.mem_map] at hpiece
    obtain ⟨text, htext, rfl⟩ := hpiece
    simpa using (h text htext).2
  have hself : ∀ text ∈ texts, String.ofList (trim (' ' :: (text.toList ++ [' ']))) = text := by
    intro text htext
    rw [trim_spaced]
    exact (h text htext).1
  have hstrip : stripPipes ("| " ++ " | ".intercalate texts ++ " |").toList =
      ['|'].intercalate ((texts.map String.toList).map fun text => ' ' :: (text ++ [' '])) := by
    rw [hline, stripPipes_eq, stripEnds_cons_concat, intercalate_spaced (by simpa using hne)]
  have hcells := cells_of_pieces hpieces hpipe hstrip
  rw [hcells, List.map_map, List.map_map]
  exact (List.map_congr_left hself).trans (List.map_id texts)

/-! ## Rows -/

def isHeaded : List String → Bool
  | first :: second :: _ => !isSeparator first && isSeparator second
  | _ => false

def plainRows (lines : List String) : List Row :=
  (lines.filter fun line => !isSeparator line).map rowOf

theorem rowsFrom_of_one_lt {index : Nat} (h : 1 < index) (above : List Row) (lines : List String) :
    rowsFrom index above lines = above.reverse ++ plainRows lines := by
  have hindex : (index == 1) = false := beq_eq_false_iff_ne.2 h.ne'
  induction lines generalizing index above with
  | nil => exact (List.append_nil _).symm
  | cons line lines ih =>
    have hnext : 1 < index + 1 := Nat.lt_succ_of_lt h
    have hindex' : (index + 1 == 1) = false := beq_eq_false_iff_ne.2 hnext.ne'
    cases hline : isSeparator line with
    | true => simp [rowsFrom, hline, hindex, ih hnext _ hindex', plainRows]
    | false => simp [rowsFrom, hline, ih hnext _ hindex', plainRows]

theorem rowsFrom_zero (lines : List String) : rowsFrom 0 [] lines =
    if isHeaded lines then markHeader (plainRows lines) else plainRows lines := by
  match lines with
  | [] => rfl
  | [line] => cases h : isSeparator line <;> simp [rowsFrom, isHeaded, plainRows, h]
  | first :: second :: lines =>
    have hbehind (above : List Row) := rowsFrom_of_one_lt Nat.one_lt_two above lines
    cases hfirst : isSeparator first <;> cases hsecond : isSeparator second <;>
      simp [rowsFrom, isHeaded, plainRows, markHeader, hfirst, hsecond, hbehind]

theorem map_cells_markHeader (rows : List Row) :
    (markHeader rows).map Row.cells = rows.map Row.cells := by
  cases rows <;> rfl

theorem isHeader_of_mem_plainRows {lines : List String} {row : Row} (h : row ∈ plainRows lines) :
    row.isHeader = false := by
  obtain ⟨line, -, rfl⟩ := List.mem_map.1 h
  rfl

theorem isHeader_markHeader_iff {rows : List Row} (h : ∀ row ∈ rows, row.isHeader = false) {i : Nat}
    {row : Row} (hrow : (markHeader rows)[i]? = some row) : row.isHeader = true ↔ i = 0 := by
  cases rows with
  | nil => simp [markHeader] at hrow
  | cons first rest =>
    cases i with
    | zero =>
      obtain rfl : { first with isHeader := true } = row := by simpa [markHeader] using hrow
      simp
    | succ i =>
      have hmem : row ∈ first :: rest := List.mem_cons_of_mem _ (List.mem_of_getElem? hrow)
      simp [h row hmem]

/-- The rows of a table are its lines that are no separators, in order; the first is a header if its
line comes first and a separator second. A separator is a line of rules. What stands between the
pipes of a line are its cells, and cells without pipes and outer white space are read back. -/
theorem table_reads_lines :
    (∀ lines, ∃ rows, table lines = .table rows ∧
      rows.map Row.cells = (lines.filter fun line => !isSeparator line).map
        (fun line => (cells line).map fun cell => ⟨runs cell⟩) ∧
      ∀ i row, rows[i]? = some row → (row.isHeader = true ↔ i = 0 ∧
        (∃ line, lines[0]? = some line ∧ isSeparator line = false) ∧
        ∃ line, lines[1]? = some line ∧ isSeparator line = true)) ∧
    (∀ line, isSeparator line = true ↔ ∀ cell ∈ cells line, IsRule cell) ∧
    (∀ line : String, line.toList.head? = some '|' → ∃ pieces, InPipes line pieces ∧
      cells line = pieces.map fun piece => .ofList (trim piece)) ∧
    ∀ texts : List String, texts ≠ [] →
      (∀ text ∈ texts, trimmed text = text ∧ '|' ∉ text.toList) →
        cells ("| " ++ " | ".intercalate texts ++ " |") = texts := by
  refine ⟨fun lines => ⟨rowsFrom 0 [] lines, rfl, ?_, fun i row hrow => ?_⟩,
    fun _ => isSeparator_iff, fun _ => exists_pieces, fun _ => cells_spaced⟩
  · have hcells : (rowsFrom 0 [] lines).map Row.cells = (plainRows lines).map Row.cells := by
      rw [rowsFrom_zero]
      split
      · exact map_cells_markHeader _
      · rfl
    rw [hcells, plainRows, List.map_map]
    rfl
  · have hheaded : ((∃ line, lines[0]? = some line ∧ isSeparator line = false) ∧
        ∃ line, lines[1]? = some line ∧ isSeparator line = true) ↔ isHeaded lines = true := by
      rcases lines with _ | ⟨first, _ | ⟨second, rest⟩⟩ <;> simp [isHeaded]
    have hplain : ∀ row ∈ plainRows lines, row.isHeader = false := fun _ => isHeader_of_mem_plainRows
    rw [rowsFrom_zero] at hrow
    rw [hheaded]
    split at hrow
    next h =>
      rw [isHeader_markHeader_iff hplain hrow]
      exact (and_iff_left h).symm
    next h => simp [h, hplain row (List.mem_of_getElem? hrow)]

theorem ruled_table_reads_lines :
    let lines := ["| a | b |", "|:-:|--|", "||"]
    (∃ rows row, table lines = .table rows ∧ rows[0]? = some row ∧ row.isHeader = true) ∧
      "||".toList.head? = some '|' ∧
      (∃ pieces, InPipes "||" pieces ∧ cells "||" = pieces.map fun piece => .ofList (trim piece)) ∧
      ["", "a b", ""] ≠ [] ∧
      (∀ text ∈ ["", "a b", ""], trimmed text = text ∧ '|' ∉ text.toList) ∧
      cells "|  | a b |  |" = ["", "a b", ""] := by
  intro lines
  obtain ⟨hrows, -, hpieces, hspaced⟩ := table_reads_lines
  obtain ⟨rows, htable, hcells, hheader⟩ := hrows lines
  have hlength : rows.length = 2 := by
    have h := congrArg List.length hcells
    rw [List.length_map, List.length_map] at h
    rw [h]
    decide
  have hfirst : rows[0]? = some rows[0] := List.getElem?_eq_getElem _
  have hpipe : "||".toList.head? = some '|' := by decide
  have htexts : ∀ text ∈ ["", "a b", ""], trimmed text = text ∧ '|' ∉ text.toList := by decide
  refine ⟨⟨rows, rows[0], htable, hfirst, (hheader 0 _ hfirst).2 ⟨rfl, ⟨_, rfl, ?_⟩, _, rfl, ?_⟩⟩,
    hpipe, hpieces "||" hpipe, by decide, htexts, ?_⟩
  · decide
  · decide
  · exact hspaced ["", "a b", ""] (by decide) htexts

end SlideDeck.Markup
