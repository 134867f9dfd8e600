import Mathlib.Data.List.Chain
import SlideDeck.Proofs.Layout.Lines

/-! Wrapping loses, doubles and restyles no character. The characters placed since the last line end
stand on the current line, each in its weight, and those before it on the lines that are ended. Only
white space is dropped, and only between lines. -/

namespace SlideDeck.Layout

abbrev Glyph := Char × Bool

def glyphs (rs : List Run) : List Glyph := rs.flatMap fun r => r.text.toList.map (·, r.bold)

def IsGap (gs : List Glyph) : Prop := ∀ g ∈ gs, Text.isBlank g.1 = true

/-- The text is the lines, in order, with white space or nothing in front of each and behind them. -/
def Spread : List Glyph → List (List Run) → Prop
  | text, [] => IsGap text
  | text, line :: lines =>
    ∃ gap rest, text = gap ++ (glyphs line ++ rest) ∧ IsGap gap ∧ Spread rest lines

structure Started (line : List Run) : Prop where
  head : ∃ c, (chars line).head? = some c ∧ Text.isBlank c = false
  filled : ∀ r ∈ line, r.text ≠ ""
  merged : (line.map Run.bold).IsChain (· ≠ ·)

/-- A line with no white space at either end and whose runs are joined as far as they can be. -/
structure Tidy (line : List Run) : Prop extends Started line where
  last : ∃ c, (chars line).getLast? = some c ∧ Text.isBlank c = false

@[simp] theorem glyphs_nil : glyphs [] = [] := rfl

@[simp] theorem glyphs_cons (r : Run) (rs : List Run) :
    glyphs (r :: rs) = r.text.toList.map (·, r.bold) ++ glyphs rs := List.flatMap_cons

@[simp] theorem glyphs_append (rs rs' : List Run) : glyphs (rs ++ rs') = glyphs rs ++ glyphs rs' :=
  List.flatMap_append

theorem map_fst_glyphs (rs : List Run) : (glyphs rs).map Prod.fst = chars rs := by
  induction rs with
  | nil => rfl
  | cons r rs ih => simp [ih, Function.comp_def]

theorem glyphs_of_bold {bold : Bool} {rs : List Run} (h : ∀ r ∈ rs, r.bold = bold) :
    glyphs rs = (chars rs).map (·, bold) := by
  induction rs with
  | nil => rfl
  | cons r rs ih =>
    obtain ⟨rfl, hrs⟩ := List.forall_mem_cons.1 h
    simp [ih hrs]

theorem isGap_nil : IsGap [] := by simp [IsGap]

theorem IsGap.append {as bs : List Glyph} (ha : IsGap as) (hb : IsGap bs) : IsGap (as ++ bs) :=
  fun g hg => (List.mem_append.1 hg).elim (ha g) (hb g)

theorem isGap_glyphs_iff {rs : List Run} :
    IsGap (glyphs rs) ↔ ∀ c ∈ chars rs, Text.isBlank c = true := by
  rw [← map_fst_glyphs, List.forall_mem_map, IsGap]

/-! ## Spreading over lines -/

section Spread

variable {text gap : List Glyph} {lines : List (List Run)}

theorem Spread.append_gap (h : Spread text lines) (hgap : IsGap gap) : Spread (text ++ gap) lines := by
  induction lines generalizing text with
  | nil => exact IsGap.append h hgap
  | cons line lines ih =>
    obtain ⟨front, rest, rfl, hfront, hrest⟩ := h
    exact ⟨front, rest ++ gap, by simp, hfront, ih hrest⟩

theorem Spread.concat (h : Spread text lines) (line : List Run) :
    Spread (text ++ glyphs line) (lines ++ [line]) := by
  induction lines generalizing text with
  | nil => exact ⟨text, [], by simp, h, isGap_nil⟩
  | cons l lines ih =>
    obtain ⟨front, rest, rfl, hfront, hrest⟩ := h
    exact ⟨front, rest ++ glyphs line, by simp, hfront, ih hrest⟩

theorem Spread.mem (h : Spread text lines) {line : List Run} (hline : line ∈ lines) {g : Glyph}
    (hg : g ∈ glyphs line) : g ∈ text := by
  induction lines generalizing text with
  | nil => simp at hline
  | cons l lines ih =>
    obtain ⟨front, rest, rfl, -, hrest⟩ := h
    rcases List.mem_cons.1 hline with rfl | hline
    · simp [hg]
    · simp [ih hrest hline]

end Spread

/-! ## Pieces -/

theorem glyphs_words (runs : List Run) : glyphs (words runs) = glyphs runs := by
  induction runs with
  | nil => rfl
  | cons r runs ih =>
    have hrun : glyphs (wordsFrom r.bold [] r.text.toList) = r.text.toList.map (·, r.bold) := by
      rw [glyphs_of_bold fun p hp => (of_mem_wordsFrom hp).1, chars_wordsFrom]
      rfl
    rw [words, List.flatMap_cons, glyphs_append, hrun, ← words, ih, glyphs_cons]

/-! ## Lines -/

section Line

variable {line : List Run} {word : Run}

theorem glyphs_pushWord (line : List Run) (word : Run) :
    glyphs (pushWord line word) = glyphs line ++ glyphs [word] := by
  rcases pushWord_cases line word with ⟨front, last, rfl, hbold, hpush⟩ | ⟨-, hpush⟩
  · simp [hpush, hbold]
  · rw [hpush, glyphs_append]

theorem started_trimStart {r : Run} (h : Text.trimStart r.text.toList ≠ []) :
    Started [⟨.ofList (Text.trimStart r.text.toList), r.bold⟩] where
  head := by
    obtain ⟨c, cs, hcs⟩ := List.exists_cons_of_ne_nil h
    have hhead := List.head?_dropWhile_not Text.isBlank r.text.toList
    rw [← Text.trimStart, hcs] at hhead
    exact ⟨c, by simp [hcs], by simpa using hhead⟩
  filled := by simpa using h
  merged := by simp

theorem Started.pushWord (h : Started line) (hword : word.text ≠ "") :
    Started (pushWord line word) := by
  have hhead : ∃ c, (chars (Layout.pushWord line word)).head? = some c ∧ Text.isBlank c = false := by
    obtain ⟨c, hc, hletter⟩ := h.head
    exact ⟨c, by rw [chars_pushWord, List.head?_append, hc, Option.some_or], hletter⟩
  refine ⟨hhead, ?_, ?_⟩ <;>
    rcases pushWord_cases line word with ⟨front, last, rfl, -, hpush⟩ | ⟨hlast, hpush⟩ <;>
    rw [hpush]
  · exact List.forall_mem_append.2 ⟨(List.forall_mem_append.1 h.filled).1, by simp [hword]⟩
  · exact List.forall_mem_append.2 ⟨h.filled, by simp [hword]⟩
  · simpa using h.merged
  · rw [List.map_append, List.isChain_append]
    exact ⟨h.merged, by simp, by simpa using hlast⟩

theorem glyphs_trimLine (line : List Run) :
    ∃ gap, glyphs line = glyphs (trimLine line) ++ gap ∧ IsGap gap := by
  rcases trimLine_cases line with ⟨hnil, hblank⟩ | ⟨front, r, rest, rfl, hblank, -, htrim⟩
  · exact ⟨glyphs line, by rw [hnil]; rfl, isGap_glyphs_iff.2 hblank⟩
  · have hr : r.text.toList.map (·, r.bold) = (Text.trimEnd r.text.toList).map (·, r.bold) ++
        (r.text.toList.rtakeWhile Text.isBlank).map (·, r.bold) := by
      rw [← List.map_append]
      exact congrArg _ List.rdropWhile_append_rtakeWhile.symm
    refine ⟨(r.text.toList.rtakeWhile Text.isBlank).map (·, r.bold) ++ glyphs rest, ?_, ?_⟩
    · rw [htrim, glyphs_append, glyphs_append, glyphs_cons, hr]
      simp
    · refine IsGap.append (List.forall_mem_map.2 fun c hc => ?_) (isGap_glyphs_iff.2 hblank)
      exact List.mem_rtakeWhile_imp hc

theorem Started.trimLine (h : Started line) : Tidy (trimLine line) := by
  obtain ⟨c, hc, hletter⟩ := h.head
  obtain ⟨cs, hcs⟩ : ∃ cs, chars line = c :: cs := List.head?_eq_some_iff.1 hc
  have hchars : chars (Layout.trimLine line) = c :: Text.trimEnd cs := by
    rw [chars_trimLine, hcs, Text.trimEnd_cons, if_neg (by simp [hletter])]
  rcases trimLine_cases line with ⟨hnil, -⟩ | ⟨front, r, rest, rfl, -, htext, htrim⟩
  · simp [hnil] at hchars
  refine ⟨⟨⟨c, by rw [hchars]; rfl, hletter⟩, ?_, ?_⟩, ?_⟩
  · rw [htrim]
    refine List.forall_mem_append.2 ⟨(List.forall_mem_append.1 h.filled).1, ?_⟩
    simpa using htext
  · have hmerged := h.merged
    rw [List.map_append, List.map_cons, List.isChain_split] at hmerged
    simpa [htrim] using hmerged.1
  · obtain ⟨d, hd⟩ : ∃ d, (chars (Layout.trimLine (front ++ r :: rest))).getLast? = some d :=
      ⟨_, List.getLast?_eq_some_getLast (by simp [hchars])⟩
    refine ⟨d, hd, ?_⟩
    rw [chars_trimLine] at hd
    exact Text.getLast?_trimEnd hd

end Line

/-! ## Wrapping -/

namespace Wrapping

variable {size limit : Float32} {bold : Bool} {w : Wrapping} {text : List Glyph}

/-- The text is spread over the lines that are ended, up to what stands on the current line. -/
structure Keeps (w : Wrapping) (text : List Glyph) : Prop where
  spread : ∃ front, text = front ++ glyphs w.line ∧ Spread front w.done.reverse
  tidy : ∀ line ∈ w.done, Tidy line
  started : w.line ≠ [] → Started w.line

theorem Keeps.start : Keeps start [] :=
  ⟨⟨[], rfl, isGap_nil⟩, by simp [Wrapping.start], by simp [Wrapping.start]⟩

theorem Keeps.endLine (h : w.Keeps text) (hline : w.line ≠ []) : w.endLine.Keeps text := by
  obtain ⟨front, rfl, hfront⟩ := h.spread
  obtain ⟨gap, hgap, hblank⟩ := glyphs_trimLine w.line
  refine ⟨⟨front ++ glyphs w.line, by simp [Wrapping.endLine], ?_⟩, ?_, by simp [Wrapping.endLine]⟩
  · rw [hgap, ← List.append_assoc, Wrapping.endLine, List.reverse_cons]
    exact (hfront.concat _).append_gap hblank
  · exact List.forall_mem_cons.2 ⟨(h.started hline).trimLine, h.tidy⟩

theorem Keeps.append_gap (h : w.Keeps text) (hline : w.line = []) {gap : List Glyph}
    (hgap : IsGap gap) : w.Keeps (text ++ gap) := by
  obtain ⟨front, rfl, hfront⟩ := h.spread
  exact ⟨⟨front ++ gap, by simp [hline], hfront.append_gap hgap⟩, h.tidy, h.started⟩

theorem Keeps.push (h : w.Keeps text) (word : Run) (width : Float32)
    (hstarted : Started (pushWord w.line word)) :
    Keeps { w with line := pushWord w.line word, width } (text ++ glyphs [word]) := by
  obtain ⟨front, rfl, hfront⟩ := h.spread
  exact ⟨⟨front, by rw [List.append_assoc, glyphs_pushWord], hfront⟩, h.tidy, fun _ => hstarted⟩

theorem Keeps.exists_gap (h : w.Keeps text) (p : Run) : ∃ gap : List Glyph,
    glyphs [p] = gap ++ (w.placed p).map (·, p.bold) ∧ w.Keeps (text ++ gap) := by
  by_cases hline : w.line = []
  · refine ⟨(p.text.toList.takeWhile Text.isBlank).map (·, p.bold), ?_, h.append_gap hline ?_⟩
    · have hcut : p.text.toList =
          p.text.toList.takeWhile Text.isBlank ++ Text.trimStart p.text.toList :=
        List.takeWhile_append_dropWhile.symm
      rw [placed, if_pos hline, ← List.map_append, ← hcut, glyphs_cons, glyphs_nil, List.append_nil]
    · exact List.forall_mem_map.2 fun c hc => List.mem_takeWhile_imp hc
  · exact ⟨[], by simp [placed, hline], by rwa [List.append_nil]⟩

theorem Keeps.started_placed (h : w.Keeps text) {p : Run} (hp : w.placed p ≠ []) :
    Started (pushWord w.line ⟨.ofList (w.placed p), p.bold⟩) := by
  by_cases hline : w.line = []
  · rw [placed, if_pos hline] at hp ⊢
    rw [hline]
    exact started_trimStart hp
  · exact (h.started hline).pushWord (by simpa using hp)

theorem Keeps.place (h : w.Keeps text) (size : Float32) (bold : Bool) (p : Run) :
    (w.place size bold p).Keeps (text ++ glyphs [p]) := by
  obtain ⟨gap, hp, hgap⟩ := h.exists_gap p
  rw [hp, ← List.append_assoc]
  rcases place_cases w size bold p with ⟨hnil, hplace⟩ | ⟨hne, width, hplace⟩
  · rw [hplace, hnil, List.map_nil, List.append_nil]
    exact hgap
  · rw [hplace]
    simpa using hgap.push _ width (h.started_placed hne)

theorem Keeps.step (h : w.Keeps text) (size : Float32) (bold : Bool) (limit : Float32) (p : Run) :
    (w.step size bold limit p).Keeps (text ++ glyphs [p]) := by
  -- Either way the piece is kept, so it does not matter what the widths are.
  rcases step_cases size bold limit w p with ⟨⟨hline, -⟩, hstep⟩ | ⟨-, hstep⟩
  · rw [hstep]
    exact (h.endLine hline).place size bold p
  · rw [hstep]
    exact h.place size bold p

theorem Keeps.run (h : w.Keeps text) (size : Float32) (bold : Bool) (limit : Float32)
    (ps : List Run) : (ps.foldl (Wrapping.step size bold limit) w).Keeps (text ++ glyphs ps) := by
  induction ps generalizing w text with
  | nil => simpa using h
  | cons p ps ih =>
    have hrest := ih (h.step size bold limit p)
    rwa [List.append_assoc, ← glyphs_append, List.singleton_append] at hrest

theorem Keeps.finish (h : w.Keeps text) : Spread text w.finish ∧
    ((w.finish = [[]] ∧ IsGap text) ∨ (w.finish ≠ [] ∧ ∀ line ∈ w.finish, Tidy line)) := by
  by_cases hline : w.line = []
  · obtain ⟨front, rfl, hfront⟩ := h.spread
    rw [hline, glyphs_nil, List.append_nil]
    cases hdone : w.done with
    | nil =>
      have hfinish : w.finish = [[]] := by simp [Wrapping.finish, hline, hdone, trimLine]
      have hgap : IsGap front := by simpa [hdone, Spread] using hfront
      rw [hfinish]
      exact ⟨⟨front, [], by simp, hgap, isGap_nil⟩, .inl ⟨rfl, hgap⟩⟩
    | cons l ls =>
      have hfinish : w.finish = w.done.reverse := by simp [Wrapping.finish, hline, hdone, trimLine]
      rw [hfinish]
      exact ⟨hfront, .inr ⟨by simp [hdone], by simpa using h.tidy⟩⟩
  · have hend := h.endLine hline
    have htidy := (h.started hline).trimLine
    have hfinish : w.finish = w.endLine.done.reverse := by
      have hne : trimLine w.line ≠ [] := by
        rintro hnil
        obtain ⟨c, hc, -⟩ := htidy.head
        simp [hnil] at hc
      simp [Wrapping.finish, hne, Wrapping.endLine]
    obtain ⟨front, rfl, hfront⟩ := hend.spread
    rw [hfinish]
    refine ⟨by simpa [Wrapping.endLine] using hfront, .inr ⟨by simp [Wrapping.endLine], ?_⟩⟩
    simpa using hend.tidy

end Wrapping

/-- The lines of a wrapped text are its characters, each in its weight and in order, without the white
space before, between and behind the lines. No white space stands at the end of a line, no run is
empty, and neighbouring runs differ in weight. From a text of white space there is one line, which is
empty. -/
theorem wrap_keeps_glyphs (runs : List Run) (size : Float32) (bold : Bool) (limit : Float32) :
    Spread (glyphs runs) (wrap runs size bold limit) ∧
      if Text.isAllBlank (plainText runs) then wrap runs size bold limit = [[]]
      else ∀ line ∈ wrap runs size bold limit, Tidy line := by
  have hkeeps := Wrapping.Keeps.start.run size bold limit (words runs)
  rw [List.nil_append, glyphs_words] at hkeeps
  obtain ⟨hspread, hlines⟩ := hkeeps.finish
  have hblank : Text.isAllBlank (plainText runs) = true ↔ IsGap (glyphs runs) := by
    rw [isGap_glyphs_iff, Text.isAllBlank, toList_plainText, List.all_eq_true]
  refine ⟨hspread, ?_⟩
  split
  next hall =>
    have hgap : IsGap (glyphs runs) := hblank.1 hall
    rcases hlines with ⟨hone, -⟩ | ⟨hne, htidy⟩
    · exact hone
    · obtain ⟨line, hline⟩ := List.exists_mem_of_ne_nil _ hne
      obtain ⟨c, hc, hletter⟩ := (htidy line hline).head
      have hmem : c ∈ (glyphs line).map Prod.fst := by
        rw [map_fst_glyphs]
        exact List.mem_of_head? hc
      obtain ⟨g, hg, rfl⟩ := List.mem_map.1 hmem
      have hspace := hgap g (hspread.mem hline hg)
      rw [hletter] at hspace
      cases hspace
  next hall =>
    rcases hlines with ⟨-, hgap⟩ | ⟨-, htidy⟩
    · exact absurd (hblank.2 hgap) hall
    · exact htidy

end SlideDeck.Layout
