import SlideDeck.Proofs.Edit.Heading

/-! What an edit leaves alone. A cursor stands for the last place between characters that is not
behind it. A heading replaces the line that holds this place and goes to the end of it, and a wrapped
stretch stays what it was and is selected. -/

namespace SlideDeck.Edit

open Text (IsPlace StandsFor bytesIn lines joinLines)

theorem exists_edited_line (deck : String) (cursor level : Nat) : ∃ above line below : String,
    (applyHeading deck cursor level).text = above ++ line ++ below ∧
      (above ++ line).toList.count '\n' = lineNumber deck cursor ∧
      (below = "" ∨ below.toList.head? = some '\n') ∧
      (applyHeading deck cursor level).start = (above ++ line).utf8ByteSize ∧
      (applyHeading deck cursor level).stop = (above ++ line).utf8ByteSize := by
  obtain ⟨above, line, below, -, hline, -, hbelow, hcount, hedited⟩ := exists_line deck cursor
  have hsize : (String.ofList above ++ String.ofList (headingLine level line)).utf8ByteSize =
      bytesIn (above ++ headingLine level line) := by
    rw [← String.ofList_append, Text.utf8ByteSize_ofList]
  refine ⟨.ofList above, .ofList (headingLine level line), .ofList below, ?_, ?_, ?_, ?_, ?_⟩
  · rw [hedited, ← String.ofList_append, ← String.ofList_append, List.append_assoc]
  · rw [String.toList_append, String.toList_ofList, String.toList_ofList, List.count_append, hcount,
      List.count_eq_zero.2 (newline_not_mem_headingLine hline level), Nat.add_zero]
  · simpa using hbelow
  · rw [hedited, hsize]
  · rw [hedited, hsize]

theorem caret_applyHeading (deck : String) (cursor level : Nat) :
    let e := applyHeading deck cursor level
    e.start = (joinLines ((lines e.text).take (lineNumber deck cursor + 1))).utf8ByteSize ∧
      e.stop = e.start ∧ IsPlace e.text e.start := by
  obtain ⟨above, line, below, htext, hcount, hbelow, hstart, hstop⟩ :=
    exists_edited_line deck cursor level
  have hlines : (lines (above ++ line ++ below)).take ((above ++ line).toList.count '\n' + 1) =
      lines (above ++ line) := Text.take_lines hbelow
  refine ⟨?_, hstop.trans hstart.symm, ?_⟩
  · rw [htext, ← hcount, hlines, Text.joinLines_lines, hstart]
  · rw [htext, hstart]
    exact Text.isPlace_iff.2 ⟨above ++ line, below, rfl, rfl⟩

theorem exists_wrapped (deck : String) (start stop : Nat) : ∃ before inner after : String,
    deck = before ++ inner ++ after ∧ StandsFor deck (min start stop) before.utf8ByteSize ∧
      StandsFor deck (max start stop) (before ++ inner).utf8ByteSize ∧
      ∀ opening closing, wrapSelection deck start stop opening closing =
        let first := before.utf8ByteSize + opening.utf8ByteSize
        ⟨before ++ opening ++ inner ++ closing ++ after, first, first + inner.utf8ByteSize⟩ := by
  have hfirst := Text.standsFor_splitBytes deck (min start stop)
  have hlast := Text.standsFor_splitBytes deck (max start stop)
  have hfront := Text.splitBytes_append (min start stop) deck.toList
  set cut := Text.splitBytes (min start stop) deck.toList
  -- The second split goes on behind the first one.
  have hle : bytesIn cut.1 ≤ max start stop :=
    hfirst.1.2.trans ((Nat.min_le_left _ _).trans (Nat.le_max_left _ _))
  have hrest := Text.splitBytes_append (max start stop - bytesIn cut.1) cut.2
  rw [← hfront, Text.splitBytes_of_le hle] at hlast
  refine ⟨.ofList cut.1, .ofList (Text.splitBytes (max start stop - bytesIn cut.1) cut.2).1,
    .ofList (Text.splitBytes (max start stop - bytesIn cut.1) cut.2).2, ?_, ?_, ?_,
    fun opening closing => ?_⟩
  · rw [← String.ofList_append, ← String.ofList_append, List.append_assoc, hrest, hfront,
      String.ofList_toList]
  · rwa [Text.utf8ByteSize_ofList]
  · rwa [← String.ofList_append, Text.utf8ByteSize_ofList]
  · simp only [wrapSelection, Text.utf8ByteSize_ofList, Text.utf8ByteSize_eq opening,
      String.ofList_append, String.ofList_toList]
    rfl

/-- An edit touches nothing outside of its span. Making the line at a cursor a heading keeps all other
lines and leaves the caret at the end of the line; wrapping puts the two texts around the stretch
between the places of its positions, and this stretch is what is selected. -/
theorem edits_keep_to_span (deck : String) :
    (∀ cursor level, ∃ above below : String,
      deck = above ++ below ∧ StandsFor deck cursor above.utf8ByteSize ∧
        let number := above.toList.count '\n'
        let e := applyHeading deck cursor level
        number < (lines deck).length ∧ (lines e.text).length = (lines deck).length ∧
          (∀ i, i ≠ number → (lines e.text)[i]? = (lines deck)[i]?) ∧
          e.start = (joinLines ((lines e.text).take (number + 1))).utf8ByteSize ∧
          e.stop = e.start ∧ IsPlace e.text e.start) ∧
      ∀ start stop opening closing, ∃ before inner after : String, ∃ first last : Nat,
        StandsFor deck start first ∧ StandsFor deck stop last ∧ deck = before ++ inner ++ after ∧
          before.utf8ByteSize = min first last ∧ (before ++ inner).utf8ByteSize = max first last ∧
          let e := wrapSelection deck start stop opening closing
          e.text = before ++ opening ++ inner ++ closing ++ after ∧
            e.text.toByteArray.extract e.start e.stop = inner.toByteArray ∧
            IsPlace e.text e.start ∧ IsPlace e.text e.stop := by
  constructor
  · intro cursor level
    obtain ⟨l, hl, hedited⟩ := lines_applyHeading deck cursor level
    have hplace := Text.standsFor_splitBytes deck cursor
    refine ⟨.ofList (Text.splitBytes cursor deck.toList).1,
      .ofList (Text.splitBytes cursor deck.toList).2, ?_, ?_, ?_⟩
    · rw [← String.ofList_append, Text.splitBytes_append, String.ofList_toList]
    · rwa [Text.utf8ByteSize_ofList]
    · rw [String.toList_ofList]
      refine ⟨(List.getElem?_eq_some_iff.1 hl).1, ?_, fun i hi => ?_, caret_applyHeading ..⟩
      · rw [hedited, List.length_set]
      · have hother : lineNumber deck cursor ≠ i := Ne.symm hi
        rw [hedited, List.getElem?_set_ne hother]
  · intro start stop opening closing
    obtain ⟨before, inner, after, hdeck, hfirst, hlast, hwrapped⟩ := exists_wrapped deck start stop
    have ha := Text.standsFor_splitBytes deck start
    have hb := Text.standsFor_splitBytes deck stop
    refine ⟨before, inner, after, _, _, ha, hb, hdeck, hfirst.unique (ha.min hb),
      hlast.unique (ha.max hb), ?_⟩
    rw [hwrapped]
    refine ⟨rfl, ?_, ?_, ?_⟩
    · have hslice := Text.extract_append (before ++ opening) inner (closing ++ after)
      rwa [String.utf8ByteSize_append, ← String.append_assoc] at hslice
    · exact Text.isPlace_iff.2 ⟨before ++ opening, inner ++ (closing ++ after), by
        simp only [String.append_assoc], by rw [String.utf8ByteSize_append]⟩
    · exact Text.isPlace_iff.2 ⟨before ++ opening ++ inner, closing ++ after, by
        simp only [String.append_assoc], by
        rw [String.utf8ByteSize_append, String.utf8ByteSize_append]⟩

/-- A cursor inside of a character, and positions the wrong way around, one of them past the end. -/
theorem crooked_positions_keep_to_span :
    let deck := "é\n# b\r\nc"
    let e := applyHeading deck 1 2
    let w := wrapSelection deck 99 1 "**" "__"
    (lines e.text)[1]? = some "# b\r" ∧ (lines e.text)[2]? = some "c" ∧ e.stop = e.start ∧
      w.text = "**é\n# b\r\nc__" ∧
        w.text.toByteArray.extract w.start w.stop = deck.toByteArray := by
  have hnear : bytesIn (Text.splitBytes 1 "é\n# b\r\nc".toList).1 = 0 := by decide
  have hfar : (Text.splitBytes 99 "é\n# b\r\nc".toList).1 = "é\n# b\r\nc".toList := by decide
  have hlines : lines "é\n# b\r\nc" = ["é", "# b\r", "c"] := by decide
  intro deck e w
  have hinside : StandsFor deck 1 0 := hnear ▸ Text.standsFor_splitBytes deck 1
  have hend : StandsFor deck 99 deck.utf8ByteSize := by
    rw [Text.utf8ByteSize_eq, ← hfar]
    exact Text.standsFor_splitBytes deck 99
  have hempty {s : String} (h : s.utf8ByteSize = 0) : s = "" := String.utf8ByteSize_eq_zero_iff.1 h
  obtain ⟨hheading, hwrapping⟩ := edits_keep_to_span deck
  obtain ⟨above, below, -, hplace, -, -, hothers, -, hcaret, -⟩ := hheading 1 2
  obtain rfl : above = "" := hempty (hplace.unique hinside)
  obtain ⟨before, inner, after, first, last, hfirst, hlast, hdeck, hmin, hmax, htext, hslice, -⟩ :=
    hwrapping 99 1 "**" "__"
  obtain rfl : last = 0 := hlast.unique hinside
  obtain rfl : before = "" := hempty (by rw [hmin, Nat.min_zero])
  have hall : ("" ++ inner).utf8ByteSize = deck.utf8ByteSize := by
    rw [hmax, Nat.max_zero, hfirst.unique hend]
  obtain rfl : after = "" := hempty (by
    have hsize := congrArg String.utf8ByteSize hdeck
    rw [String.utf8ByteSize_append, hall] at hsize
    omega)
  obtain rfl : inner = deck := by simpa using hdeck.symm
  rw [hlines] at hothers
  exact ⟨hothers 1 (by decide), hothers 2 (by decide), hcaret, htext, hslice⟩

end SlideDeck.Edit
