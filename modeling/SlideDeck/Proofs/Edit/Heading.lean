import SlideDeck.Edit.Text
import SlideDeck.Proofs.Markup.Heading
import SlideDeck.Proofs.Text.Bytes
import SlideDeck.Proofs.Text.Lines

/-! The line at a cursor as a heading: which line of the text is replaced, and how it is read then.
A line keeps its text and loses the marker that it had, unless white space stands in front of that. -/

namespace SlideDeck

namespace Text

/-- Around a place where a line begins and one where a line ends the lines are the same, whatever
line stands between the two. -/
theorem splitOn_around {above below : List Char} (habove : above = [] ∨ above.getLast? = some '\n')
    (hbelow : below = [] ∨ below.head? = some '\n') : ∃ before behind : List (List Char),
      before.length = above.count '\n' ∧ ∀ line, '\n' ∉ line →
        (above ++ (line ++ below)).splitOn '\n' = before ++ line :: behind := by
  have hend : ∃ behind : List (List Char), ∀ line, '\n' ∉ line →
      (line ++ below).splitOn '\n' = line :: behind := by
    have hone {line : List Char} (hline : '\n' ∉ line) : line.splitOn '\n' = [line] := by
      rw [List.splitOn_eq_splitOnP]
      exact List.splitOnP_eq_singleton fun c hc => by
        simpa using fun heq : c = '\n' => hline (heq ▸ hc)
    rcases hbelow with rfl | hbelow
    · exact ⟨[], fun line hline => by rw [List.append_nil, hone hline]⟩
    · obtain ⟨rest, rfl⟩ := List.head?_eq_some_iff.1 hbelow
      refine ⟨rest.splitOn '\n', fun line hline => ?_⟩
      rw [List.splitOn_append_cons_self, hone hline, List.singleton_append]
  obtain ⟨behind, hbehind⟩ := hend
  rcases habove with rfl | habove
  · exact ⟨[], behind, rfl, hbehind⟩
  · have hfront : above = above.dropLast ++ ['\n'] := (List.dropLast_append_getLast? _ habove).symm
    refine ⟨above.dropLast.splitOn '\n', behind, ?_, fun line hline => ?_⟩
    · rw [List.splitOn_eq_splitOnP, length_splitOnP, hfront]
      simp [List.count]
    · rw [hfront, List.append_assoc, List.singleton_append, List.splitOn_append_cons_self,
        hbehind line hline, ← hfront]

end Text

namespace Edit

open Text (isBlank trim trimStart trimEnd trimmed lines)

/-! ## The line at a cursor -/

theorem splitLastLine_eq (cs : List Char) :
    splitLastLine cs = (cs.rdropWhile (· != '\n'), cs.rtakeWhile (· != '\n')) := by
  have hsplit : cs.rdropWhile (· != '\n') ++ cs.rtakeWhile (· != '\n') = cs :=
    List.rdropWhile_append_rtakeWhile
  have hlength := congrArg List.length hsplit
  rw [List.length_append] at hlength
  have htake : cs.take (cs.length - (cs.rtakeWhile (· != '\n')).length) =
      cs.rdropWhile (· != '\n') := by
    rw [← hlength, Nat.add_sub_cancel]
    exact (List.prefix_iff_eq_take.1 ⟨_, hsplit⟩).symm
  exact congrArg (·, cs.rtakeWhile (· != '\n')) htake

def lineNumber (deck : String) (cursor : Nat) : Nat :=
  (Text.splitBytes cursor deck.toList).1.count '\n'

theorem exists_line (deck : String) (cursor : Nat) : ∃ above line below : List Char,
    deck.toList = above ++ (line ++ below) ∧ '\n' ∉ line ∧
      (above = [] ∨ above.getLast? = some '\n') ∧ (below = [] ∨ below.head? = some '\n') ∧
      above.count '\n' = lineNumber deck cursor ∧
      ∀ level, applyHeading deck cursor level =
        let caret := Text.bytesIn (above ++ headingLine level line)
        ⟨.ofList (above ++ (headingLine level line ++ below)), caret, caret⟩ := by
  have hcut := Text.splitBytes_append cursor deck.toList
  unfold lineNumber applyHeading
  generalize Text.splitBytes cursor deck.toList = cut at hcut ⊢
  obtain ⟨before, after⟩ := cut
  have hbefore : before.rdropWhile (· != '\n') ++ before.rtakeWhile (· != '\n') = before :=
    List.rdropWhile_append_rtakeWhile
  have hafter : after.takeWhile (· != '\n') ++ after.dropWhile (· != '\n') = after :=
    List.takeWhile_append_dropWhile
  have hleft : '\n' ∉ before.rtakeWhile (· != '\n') := fun hmem => by
    simpa using List.mem_rtakeWhile_imp hmem
  have hright : '\n' ∉ after.takeWhile (· != '\n') := fun hmem => by
    simpa using List.mem_takeWhile_imp hmem
  refine ⟨before.rdropWhile (· != '\n'),
    before.rtakeWhile (· != '\n') ++ after.takeWhile (· != '\n'),
    after.dropWhile (· != '\n'), ?_, ?_, ?_, ?_, ?_, fun level => ?_⟩
  · rw [List.append_assoc, hafter, ← List.append_assoc, hbefore]
    exact hcut.symm
  · exact List.not_mem_append hleft hright
  · refine or_iff_not_imp_left.2 fun hne => ?_
    rw [List.getLast?_eq_some_getLast hne]
    simpa using List.rdropWhile_last_not (· != '\n') before hne
  · have hnot := List.head?_dropWhile_not (· != '\n') after
    cases hbelow : after.dropWhile (· != '\n') with
    | nil => exact .inl rfl
    | cons c rest => exact .inr (by simpa [hbelow] using hnot)
  · have hcount := congrArg (List.count '\n') hbefore
    rwa [List.count_append, List.count_eq_zero.2 hleft, Nat.add_zero] at hcount
  · simp only [splitLastLine_eq, List.append_assoc]

theorem newline_not_mem_headingLine {line : List Char} (h : '\n' ∉ line) (level : Nat) :
    '\n' ∉ headingLine level line := by
  have hstrip : stripMarker line ⊆ line := by
    unfold stripMarker
    split
    · exact ((List.dropWhile_suffix _).trans (List.dropWhile_suffix _)).subset
    · exact List.Subset.refl line
  intro hmem
  rcases List.mem_append.1 hmem with hmem | hmem
  · simp at hmem
  · exact h (hstrip (by simpa using hmem))

theorem lines_applyHeading (deck : String) (cursor level : Nat) : ∃ l,
    (lines deck)[lineNumber deck cursor]? = some l ∧
      lines (applyHeading deck cursor level).text =
        (lines deck).set (lineNumber deck cursor) (.ofList (headingLine level l.toList)) := by
  obtain ⟨above, line, below, hdeck, hline, habove, hbelow, hcount, hedited⟩ :=
    exists_line deck cursor
  obtain ⟨before, behind, hbefore, hsplit⟩ := Text.splitOn_around habove hbelow
  have hlines : lines deck = before.map String.ofList ++ .ofList line :: behind.map String.ofList := by
    rw [lines, hdeck, hsplit line hline, List.map_append, List.map_cons]
  have hnumber : (before.map String.ofList).length = lineNumber deck cursor := by
    rw [List.length_map, hbefore, hcount]
  refine ⟨.ofList line, ?_, ?_⟩
  · rw [hlines, ← hnumber, List.getElem?_append_right (Nat.le_refl _), Nat.sub_self]
    rfl
  · rw [hlines, ← hnumber, List.set_append_right _ _ (Nat.le_refl _), Nat.sub_self, List.set_cons_zero,
      lines, hedited, String.toList_ofList, String.toList_ofList,
      hsplit _ (newline_not_mem_headingLine hline level), List.map_append, List.map_cons]

/-! ## The line as it is read -/

section Reading

variable {l : String} {line : List Char}

theorem trim_headingLine (h : trim (stripMarker line) ≠ []) (level : Nat) :
    trim (headingLine level line) =
      List.replicate (clampLevel level) '#' ++ ' ' :: trimEnd (stripMarker line) := by
  have hend : trimEnd (stripMarker line) ≠ [] := by
    intro hnil
    rw [Text.trim_eq, hnil] at h
    exact h rfl
  have htext : trimEnd (' ' :: stripMarker line) = ' ' :: trimEnd (stripMarker line) := by
    rw [Text.trimEnd_cons, if_neg fun hblank => hend hblank.1]
  obtain ⟨n, hn⟩ : ∃ n, clampLevel level = n + 1 :=
    Nat.exists_eq_add_one_of_ne_zero (by unfold clampLevel; omega)
  have hstart : trimStart (headingLine level line) = headingLine level line := by
    rw [headingLine, hn, List.replicate_succ]
    exact List.dropWhile_cons_of_neg (by decide)
  rw [trim, hstart, headingLine, Text.trimEnd_append_eq_ite, htext, if_neg (List.cons_ne_nil _ _)]

theorem read?_headingLine (h : trim (stripMarker line) ≠ []) (level : Nat) :
    Markup.Heading.read? (trimmed (.ofList (headingLine level line))) =
      some ⟨.ofNat (clampLevel level), .ofList (trim (stripMarker line))⟩ := by
  have hline : (trimmed (.ofList (headingLine level line))).toList =
      List.replicate (clampLevel level) '#' ++ ' ' :: trimEnd (stripMarker line) := by
    rw [Text.toList_trimmed, String.toList_ofList, trim_headingLine h]
  have hpos : 0 < clampLevel level := by unfold clampLevel; omega
  have hmin : min (clampLevel level) maxLevel = clampLevel level := by
    unfold clampLevel maxLevel
    omega
  rw [Markup.Heading.read?_of_eq_replicate hline hpos (by decide), hmin, Text.trim_trimEnd]

def IsIndented (l : String) : Prop := ∃ c, l.toList.head? = some c ∧ isBlank c = true

theorem trim_stripMarker_of_read? {h : Markup.Heading}
    (hread : Markup.Heading.read? (trimmed l) = some h) (hfront : ¬IsIndented l) :
    trim (stripMarker l.toList) = h.text.toList := by
  obtain ⟨marks, c, rest, htrim, hmarks, hblank, rfl⟩ := Markup.Heading.eq_replicate_of_read? hread
  obtain ⟨before, behind, hl, hbefore, hbehind⟩ := Text.exists_eq_append_trim l.toList
  have hnone : before = [] := by
    cases before with
    | nil => rfl
    | cons x before =>
      exact absurd ⟨x, by rw [hl]; rfl, hbefore x List.mem_cons_self⟩ hfront
  rw [Text.toList_trimmed] at htrim
  have hline : l.toList = List.replicate marks '#' ++ (c :: rest ++ behind) := by
    rw [hl, hnone, htrim, List.nil_append, List.append_assoc]
  have hc : (c :: rest ++ behind).head? ≠ some '#' := by
    intro hhead
    obtain rfl : c = '#' := Option.some.inj hhead
    cases hblank
  have hhead : l.toList.head? = some '#' := by
    obtain ⟨n, rfl⟩ := Nat.exists_eq_add_one_of_ne_zero hmarks.ne'
    rw [hline]
    rfl
  have hgap : ∀ x ∈ [c], isBlank x = true := by simpa using hblank
  rw [stripMarker, if_pos hhead, hline, Text.dropWhile_replicate_append hc, Text.trim_trimStart,
    Text.trim_append_of_blank hbehind, ← List.singleton_append, Text.trim_of_blank_append hgap,
    String.toList_ofList]

theorem stripMarker_of_isIndented (h : IsIndented l) : stripMarker l.toList = l.toList := by
  obtain ⟨c, hhead, hblank⟩ := h
  refine if_neg fun hsign => ?_
  obtain rfl : c = '#' := Option.some.inj (hhead.symm.trans hsign)
  cases hblank

theorem stripMarker_of_head?_trimmed (h : (trimmed l).toList.head? ≠ some '#') :
    stripMarker l.toList = l.toList := by
  refine if_neg fun hsign => h ?_
  obtain ⟨rest, hl⟩ := List.head?_eq_some_iff.1 hsign
  have hstart : trimStart ('#' :: rest) = '#' :: rest := List.dropWhile_cons_of_neg (by decide)
  rw [Text.toList_trimmed, hl, trim, hstart, Text.trimEnd_cons, if_neg (by simp [isBlank])]
  rfl

theorem text_ne_trimmed {h : Markup.Heading} (hread : Markup.Heading.read? (trimmed l) = some h) :
    h.text ≠ trimmed l := by
  obtain ⟨marks, c, rest, htrim, hmarks, -, rfl⟩ := Markup.Heading.eq_replicate_of_read? hread
  obtain ⟨before, behind, hrest, -, -⟩ := Text.exists_eq_append_trim rest
  intro heq
  have htext : (trim rest).length = (List.replicate marks '#' ++ c :: rest).length := by
    rw [← htrim, ← heq, String.toList_ofList]
  have hlength := congrArg List.length hrest
  simp only [List.length_append, List.length_cons] at htext hlength
  omega

end Reading

/-- The line at the cursor is read as a heading of the level that was asked for. A line of text is
the text of the heading. Of a line that was a heading the text is kept exactly if no white space stood
in front of the marker; otherwise the old marker is part of the new text. -/
theorem heading_edit_reads_back (deck : String) (cursor level : Nat) : ∃ l l' : String,
    (lines deck)[lineNumber deck cursor]? = some l ∧
      (lines (applyHeading deck cursor level).text)[lineNumber deck cursor]? = some l' ∧
      (∀ h, Markup.Heading.read? (trimmed l) = some h →
        ∃ h', Markup.Heading.read? (trimmed l') = some h' ∧ h'.level.toNat = clampLevel level ∧
          (h'.text = h.text ↔ ¬IsIndented l) ∧ (IsIndented l → h'.text = trimmed l)) ∧
      (trimmed l ≠ "" → (trimmed l).toList.head? ≠ some '#' →
        ∃ h', Markup.Heading.read? (trimmed l') = some h' ∧ h'.level.toNat = clampLevel level ∧
          h'.text = trimmed l) := by
  obtain ⟨l, hl, hedited⟩ := lines_applyHeading deck cursor level
  have hlevel : (UInt8.ofNat (clampLevel level)).toNat = clampLevel level := by
    have hsmall : clampLevel level < 2 ^ 8 := by unfold clampLevel maxLevel; omega
    exact UInt8.toNat_ofNat_of_lt' hsmall
  -- Where no marker is found, the whole line is the text.
  have hwhole (hne : trimmed l ≠ "") (hstrip : stripMarker l.toList = l.toList) :
      Markup.Heading.read? (trimmed (.ofList (headingLine level l.toList))) =
        some ⟨.ofNat (clampLevel level), trimmed l⟩ := by
    have htext : trim (stripMarker l.toList) ≠ [] := by
      rw [hstrip]
      exact fun hnil => hne (by rw [trimmed, hnil])
    rw [read?_headingLine htext, hstrip, trimmed]
  refine ⟨l, .ofList (headingLine level l.toList), hl, ?_, fun h hread => ?_, fun hne hsign => ?_⟩
  · rw [hedited, List.getElem?_set_self (List.getElem?_eq_some_iff.1 hl).1]
  · by_cases hfront : IsIndented l
    · have hne : trimmed l ≠ "" := by
        intro hempty
        rw [hempty] at hread
        cases hread
      refine ⟨_, hwhole hne (stripMarker_of_isIndented hfront), hlevel, ?_, fun _ => rfl⟩
      exact iff_of_false (text_ne_trimmed hread).symm (not_not_intro hfront)
    · have htext := trim_stripMarker_of_read? hread hfront
      have hne : trim (stripMarker l.toList) ≠ [] := by
        rw [htext]
        exact fun hnil => Markup.Heading.text_ne_empty hread (fun _ => Text.getLast?_trimmed)
          (String.toList_inj.1 hnil)
      refine ⟨_, read?_headingLine hne level, hlevel, ?_, fun h => absurd h hfront⟩
      rw [htext, String.ofList_toList]
      exact iff_of_true rfl hfront
  · exact ⟨_, hwhole hne (stripMarker_of_head?_trimmed hsign), hlevel, rfl⟩

/-- A heading with a tab and a carriage return, an indented heading, and a line of text. -/
theorem three_headings_read_back :
    let deck := "#\t a\r\n  # b\n c"
    (Markup.Heading.read? (trimmed "#\t a\r") = some ⟨1, "a"⟩ ∧ ¬IsIndented "#\t a\r" ∧
      ∃ l h, (lines (applyHeading deck 0 9).text)[0]? = some l ∧
        Markup.Heading.read? (trimmed l) = some h ∧ h.level.toNat = 6 ∧ h.text = "a") ∧
    (Markup.Heading.read? (trimmed "  # b") = some ⟨1, "b"⟩ ∧ IsIndented "  # b" ∧
      ∃ l h, (lines (applyHeading deck 7 2).text)[1]? = some l ∧
        Markup.Heading.read? (trimmed l) = some h ∧ h.level.toNat = 2 ∧ h.text = "# b") ∧
    trimmed " c" ≠ "" ∧ (trimmed " c").toList.head? ≠ some '#' ∧
      ∃ l h, (lines (applyHeading deck 99 0).text)[2]? = some l ∧
        Markup.Heading.read? (trimmed l) = some h ∧ h.level.toNat = 1 ∧ h.text = "c" := by
  intro deck
  have hsplit : lines deck = ["#\t a\r", "  # b", " c"] := by decide
  refine ⟨?_, ?_, ?_⟩
  · have hread : Markup.Heading.read? (trimmed "#\t a\r") = some ⟨1, "a"⟩ := by decide
    have hfront : ¬IsIndented "#\t a\r" := by
      rintro ⟨c, hc, hblank⟩
      obtain rfl : '#' = c := Option.some.inj hc
      cases hblank
    have hnumber : lineNumber deck 0 = 0 := by decide
    obtain ⟨l, l', hl, hl', hmarked, -⟩ := heading_edit_reads_back deck 0 9
    rw [hsplit, hnumber] at hl
    obtain rfl : "#\t a\r" = l := Option.some.inj hl
    obtain ⟨h', hread', hlevel, htext, -⟩ := hmarked _ hread
    rw [hnumber] at hl'
    exact ⟨hread, hfront, l', h', hl', hread', hlevel, htext.2 hfront⟩
  · have hread : Markup.Heading.read? (trimmed "  # b") = some ⟨1, "b"⟩ := by decide
    have hfront : IsIndented "  # b" := ⟨' ', by decide, by decide⟩
    have hnumber : lineNumber deck 7 = 1 := by decide
    obtain ⟨l, l', hl, hl', hmarked, -⟩ := heading_edit_reads_back deck 7 2
    rw [hsplit, hnumber] at hl
    obtain rfl : "  # b" = l := Option.some.inj hl
    obtain ⟨h', hread', hlevel, -, htext⟩ := hmarked _ hread
    rw [hnumber] at hl'
    exact ⟨hread, hfront, l', h', hl', hread', hlevel, htext hfront⟩
  · have hne : trimmed " c" ≠ "" := by decide
    have hsign : (trimmed " c").toList.head? ≠ some '#' := by decide
    have hnumber : lineNumber deck 99 = 2 := by decide
    obtain ⟨l, l', hl, hl', -, hplain⟩ := heading_edit_reads_back deck 99 0
    rw [hsplit, hnumber] at hl
    obtain rfl : " c" = l := Option.some.inj hl
    obtain ⟨h', hread', hlevel, htext⟩ := hplain hne hsign
    rw [hnumber] at hl'
    exact ⟨hne, hsign, l', h', hl', hread', hlevel, htext⟩

/-- The marker of an indented heading is not found and becomes a part of the text. -/
theorem indented_heading_nests :
    let deck := " # T"
    (lines deck)[lineNumber deck 0]? = some " # T" ∧
      Markup.Heading.read? (trimmed " # T") = some ⟨1, "T"⟩ ∧
      (lines (applyHeading deck 0 2).text)[lineNumber deck 0]? = some "##  # T" ∧
      Markup.Heading.read? (trimmed "##  # T") = some ⟨2, "# T"⟩ := by decide

end Edit

end SlideDeck
