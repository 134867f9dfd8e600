import SlideDeck.Proofs.Layout.Lines
import SlideDeck.Proofs.Text.Words

/-! Words on wrapped lines. Lines are ended between pieces of text, and white space at their ends is
dropped. So the words are those of the text, unless a line ends inside of one. -/

namespace SlideDeck.Layout

theorem blank_of_wordsFrom {bold : Bool} {word cs : List Char} {before behind : List Run} {p : Run}
    (h : wordsFrom bold word cs = before ++ p :: behind) (hne : before ≠ []) :
    ∃ c, (chars before).getLast? = some c ∧ Text.isBlank c = true := by
  induction cs generalizing word before with
  | nil =>
    obtain ⟨q, rest, rfl⟩ := List.exists_cons_of_ne_nil hne
    cases word <;> simp [wordsFrom] at h
  | cons c cs ih =>
    rw [wordsFrom] at h
    split at h
    next hcut =>
      obtain ⟨q, rest, rfl⟩ := List.exists_cons_of_ne_nil hne
      obtain ⟨rfl, hrest⟩ := List.cons.inj h
      by_cases hnil : rest = []
      · subst hnil
        obtain ⟨d, hd, hblank⟩ : ∃ d, word.head? = some d ∧ Text.isBlank d = true := by
          cases word with
          | nil => simp at hcut
          | cons d word => exact ⟨d, rfl, by simpa using (Bool.and_eq_true _ _ ▸ hcut).1⟩
        exact ⟨d, by simp [hd], hblank⟩
      · obtain ⟨d, hd, hblank⟩ := ih hrest hnil
        exact ⟨d, by rw [chars_cons, List.getLast?_append, hd, Option.some_or], hblank⟩
    next => exact ih h hne

/-! ## Wrapping -/

namespace Wrapping

variable {size limit : Float32} {bold : Bool} {w : Wrapping} {g : List Run}

def doneWords (w : Wrapping) : List (List Char) :=
  w.done.reverse.flatMap fun l => Text.words (chars l)

structure Holds (w : Wrapping) (g : List Run) : Prop where
  chars_line : chars w.line = Text.trimStart (chars g)
  line_eq_nil : chars w.line = [] → w.line = []

theorem Holds.start : Holds start [] := ⟨rfl, fun _ => rfl⟩

theorem Holds.endLine (w : Wrapping) : w.endLine.Holds [] := ⟨rfl, fun _ => rfl⟩

theorem holds_pushWord {line : List Run} {word : Run} (hword : word.text.toList ≠ [])
    (hline : chars line ++ word.text.toList = Text.trimStart (chars g)) {width : Float32} :
    Holds { w with line := pushWord line word, width } g := by
  have hchars := chars_pushWord line word
  refine ⟨hchars.trans hline, fun hnil => ?_⟩
  rw [hchars] at hnil
  exact absurd (List.append_eq_nil_iff.1 hnil).2 hword

theorem Holds.place (h : w.Holds g) (p : Run) : (w.place size bold p).Holds (g ++ [p]) := by
  have hpieces : Text.trimStart (chars (g ++ [p])) = chars w.line ++ w.placed p := by
    rw [chars_append, Text.trimStart_append_eq_ite, ← h.chars_line, chars_cons, chars_nil,
      List.append_nil, placed]
    by_cases hline : w.line = []
    · simp [hline]
    · rw [if_neg fun hnil => hline (h.line_eq_nil hnil), if_neg hline]
  rcases place_cases w size bold p with ⟨hnil, hplace⟩ | ⟨hne, width, hplace⟩
  · rw [hplace]
    exact ⟨by rw [hpieces, hnil, List.append_nil], h.line_eq_nil⟩
  · rw [hplace]
    exact holds_pushWord (by simpa using hne) (by rw [hpieces, String.toList_ofList])

theorem done_place (w : Wrapping) (p : Run) : (w.place size bold p).done = w.done := by
  rcases place_cases w size bold p with ⟨-, hplace⟩ | ⟨-, width, hplace⟩ <;> rw [hplace]

theorem Holds.doneWords_endLine (h : w.Holds g) :
    w.endLine.doneWords = w.doneWords ++ Text.words (chars g) := by
  rw [doneWords, Wrapping.endLine, List.reverse_cons, List.flatMap_append, List.flatMap_singleton,
    chars_trimLine, Text.words_trimEnd, h.chars_line, Text.words_trimStart, doneWords]

theorem Holds.words_finish (h : w.Holds g) :
    (w.finish.flatMap fun l => Text.words (chars l)) = w.doneWords ++ Text.words (chars g) := by
  rw [← h.doneWords_endLine, doneWords, finish, Wrapping.endLine]
  split
  next hlast =>
    have hnil : trimLine w.line = [] := List.isEmpty_iff.1 (Bool.and_eq_true_iff.1 hlast).1
    simp [hnil]
  next => rfl

theorem Holds.step (h : w.Holds g) (size : Float32) (bold : Bool) (limit : Float32) (p : Run) :
    ((w.line ≠ [] ∧ w.Overflows size bold limit p) ∧ (w.step size bold limit p).Holds [p] ∧
        (w.step size bold limit p).doneWords = w.doneWords ++ Text.words (chars g)) ∨
      (¬ (w.line ≠ [] ∧ w.Overflows size bold limit p) ∧
        (w.step size bold limit p).Holds (g ++ [p]) ∧
        (w.step size bold limit p).doneWords = w.doneWords) := by
  have hdone (w : Wrapping) : (w.place size bold p).doneWords = w.doneWords := by
    rw [doneWords, done_place, doneWords]
  rcases step_cases size bold limit w p with ⟨hend, hstep⟩ | ⟨hend, hstep⟩
  · rw [hstep, hdone]
    exact .inl ⟨hend, (Holds.endLine w).place p, h.doneWords_endLine⟩
  · rw [hstep, hdone]
    exact .inr ⟨hend, h.place p, rfl⟩

theorem Holds.length_words_le (h : w.Holds g) (size : Float32) (bold : Bool) (limit : Float32)
    (ps : List Run) :
    w.doneWords.length + (Text.words (chars g ++ chars ps)).length ≤
      ((ps.foldl (Wrapping.step size bold limit) w).finish.flatMap
        fun l => Text.words (chars l)).length := by
  induction ps generalizing w g with
  | nil => rw [List.foldl_nil, h.words_finish, chars_nil, List.append_nil, List.length_append]
  | cons p ps ih =>
    rw [List.foldl_cons, chars_cons]
    rcases h.step size bold limit p with ⟨-, hholds, hdone⟩ | ⟨-, hholds, hdone⟩
    · have hrest := ih hholds
      rw [hdone, List.length_append, chars_cons, chars_nil, List.append_nil] at hrest
      have hcut := Text.length_words_append_le (chars g) (p.text.toList ++ chars ps)
      omega
    · have hrest := ih hholds
      rwa [hdone, chars_append, chars_cons, chars_nil, List.append_nil, List.append_assoc] at hrest

/-- No line ends inside of a word, where `t` is the text in front of the pieces. -/
def Uncut (size : Float32) (bold : Bool) (limit : Float32) (w : Wrapping) (t : List Char)
    (ps : List Run) : Prop :=
  ∀ before p behind, ps = before ++ p :: behind →
    Text.GoesOn (t ++ chars before) p.text.toList →
      ¬ (before.foldl (Wrapping.step size bold limit) w).Overflows size bold limit p

theorem uncut_cons {t : List Char} {p : Run} {ps : List Run} :
    Uncut size bold limit w t (p :: ps) ↔
      (Text.GoesOn t p.text.toList → ¬ w.Overflows size bold limit p) ∧
        Uncut size bold limit (w.step size bold limit p) (t ++ p.text.toList) ps := by
  constructor
  · intro h
    refine ⟨fun hgo => h [] p ps rfl (by simpa using hgo), fun before q behind hps hgo => ?_⟩
    exact h (p :: before) q behind (by rw [hps, List.cons_append]) (by simpa using hgo)
  · rintro ⟨hfirst, hrest⟩ before q behind hps hgo
    cases before with
    | nil =>
      obtain ⟨rfl, -⟩ := List.cons.inj hps
      exact hfirst (by simpa using hgo)
    | cons q' before =>
      obtain ⟨rfl, htail⟩ := List.cons.inj hps
      exact hrest before q behind htail (by simpa using hgo)

theorem uncut_append {s t : List Char} (ht : t ≠ []) {ps : List Run} :
    Uncut size bold limit w (s ++ t) ps ↔ Uncut size bold limit w t ps := by
  have hgo (before : List Run) (p : Run) : Text.GoesOn (s ++ t ++ chars before) p.text.toList ↔
      Text.GoesOn (t ++ chars before) p.text.toList := by
    rw [List.append_assoc, Text.goesOn_append_left (by simp [ht])]
  simp only [Uncut, hgo]

theorem Holds.line_ne_nil (h : w.Holds g) {cs : List Char} (hgo : Text.GoesOn (chars g) cs) :
    w.line ≠ [] := by
  intro hline
  obtain ⟨⟨c, hc, hblank⟩, -⟩ := hgo
  have hall : Text.trimStart (chars g) = [] := by rw [← h.chars_line, hline, chars_nil]
  have hc := List.dropWhile_eq_nil_iff.1 hall c (List.mem_of_getLast? hc)
  rw [hc] at hblank
  cases hblank

theorem Holds.words_eq_iff (h : w.Holds g) (size : Float32) (bold : Bool) (limit : Float32)
    {ps : List Run} (hps : ∀ p ∈ ps, p.text.toList ≠ []) :
    ((ps.foldl (Wrapping.step size bold limit) w).finish.flatMap fun l => Text.words (chars l)) =
        w.doneWords ++ Text.words (chars g ++ chars ps) ↔
      Uncut size bold limit w (chars g) ps := by
  induction ps generalizing w g with
  | nil =>
    rw [List.foldl_nil, h.words_finish, chars_nil, List.append_nil]
    exact ⟨fun _ before p behind hnil => by simp at hnil, fun _ => rfl⟩
  | cons p ps ih =>
    obtain ⟨hp, hps⟩ := List.forall_mem_cons.1 hps
    rw [List.foldl_cons, uncut_cons, chars_cons]
    rcases h.step size bold limit p with ⟨hend, hholds, hdone⟩ | ⟨hstay, hholds, hdone⟩
    · have hrest := ih hholds hps
      rw [hdone, chars_cons, chars_nil, List.append_nil] at hrest
      by_cases hgo : Text.GoesOn (chars g) p.text.toList
      · -- One word becomes two, and no later piece makes up for it.
        refine ⟨fun hwords => ?_, fun huncut => absurd hend.2 (huncut.1 hgo)⟩
        have hcut : (Text.words (chars g)).length + (Text.words (p.text.toList ++ chars ps)).length =
            (Text.words (chars g ++ (p.text.toList ++ chars ps))).length + 1 :=
          Text.length_words_append ((Text.goesOn_append_right hp).2 hgo)
        have hlength := hholds.length_words_le size bold limit ps
        rw [hwords, hdone, chars_cons, chars_nil, List.append_nil] at hlength
        simp only [List.length_append] at hlength
        omega
      · rw [uncut_append hp, ← hrest, Text.words_append (fun h =>
          hgo ((Text.goesOn_append_right hp).1 h)), List.append_assoc]
        exact ⟨fun hwords => ⟨fun h => absurd h hgo, hwords⟩, fun h => h.2⟩
    · have hrest := ih hholds hps
      rw [hdone, chars_append, chars_cons, chars_nil, List.append_nil, List.append_assoc] at hrest
      rw [hrest]
      exact ⟨fun huncut => ⟨fun hgo hover => hstay ⟨h.line_ne_nil hgo, hover⟩, huncut⟩,
        fun h => h.2⟩

end Wrapping

theorem not_goesOn_of_words {t : List Char} {runs : List Run}
    (h : ∀ before r behind, runs = before ++ r :: behind →
      ¬ Text.GoesOn (t ++ chars before) r.text.toList)
    {before behind : List Run} {p : Run} (hp : words runs = before ++ p :: behind) :
    ¬ Text.GoesOn (t ++ chars before) p.text.toList := by
  induction runs generalizing t before with
  | nil => simp [words] at hp
  | cons r runs ih =>
    have htail (before : List Run) (hp : words runs = before ++ p :: behind) :
        ¬ Text.GoesOn (t ++ (r.text.toList ++ chars before)) p.text.toList := by
      rw [← List.append_assoc]
      refine ih (fun before' q behind' hruns => ?_) hp
      have hq := h (r :: before') q behind' (by rw [hruns, List.cons_append])
      rwa [chars_cons, ← List.append_assoc] at hq
    have hrun : chars (wordsFrom r.bold [] r.text.toList) = r.text.toList := chars_wordsFrom ..
    rw [words, List.flatMap_cons, ← words] at hp
    -- The piece is one of a later run, or one of this run: the first, or one behind white space.
    rcases List.append_eq_append_iff.1 hp with ⟨before', rfl, hwords⟩ | ⟨rest, hwords, hrest⟩
    · rw [chars_append, hrun]
      exact htail _ hwords
    · cases rest with
      | nil =>
        rw [List.append_nil] at hwords
        rw [← hwords, hrun, ← List.append_nil r.text.toList]
        exact htail [] hrest.symm
      | cons q rest =>
        obtain ⟨rfl, -⟩ := List.cons.inj hrest
        intro hgo
        by_cases hne : before = []
        · subst hne
          rw [hwords, List.nil_append, chars_cons] at hrun
          have hp : p.text.toList ≠ [] := by
            rintro hnil
            obtain ⟨-, c, hc, -⟩ := hgo
            simp [hnil] at hc
          refine h [] r runs rfl ?_
          rw [← hrun]
          exact (Text.goesOn_append_right hp).2 hgo
        · obtain ⟨c, hc, hblank⟩ := blank_of_wordsFrom hwords hne
          obtain ⟨⟨d, hd, hletter⟩, -⟩ := hgo
          rw [List.getLast?_append, hc, Option.some_or, Option.some_inj] at hd
          rw [← hd, hblank] at hletter
          cases hletter

/-- The words on the lines are those of the text if and only if no piece overflows a line that ends
inside of a word. They are so whenever no run goes on with a word of the runs before it. -/
theorem wrap_keeps_words (runs : List Run) (size : Float32) (bold : Bool) (limit : Float32) :
    (((wrap runs size bold limit).flatMap fun l => Text.words (plainText l).toList) =
        Text.words (plainText runs).toList ↔
      ∀ before piece behind, words runs = before ++ piece :: behind →
        Text.GoesOn (plainText before).toList piece.text.toList →
          ¬ limit < (before.foldl (Wrapping.step size bold limit) .start).width +
            textWidth (Text.trimEnd piece.text.toList) size (bold || piece.bold)) ∧
    ((∀ before r behind, runs = before ++ r :: behind →
        ¬ Text.GoesOn (plainText before).toList r.text.toList) →
      ((wrap runs size bold limit).flatMap fun l => Text.words (plainText l).toList) =
        Text.words (plainText runs).toList) := by
  have hpieces : ∀ p ∈ words runs, p.text.toList ≠ [] := fun p hp => by
    obtain ⟨r, -, hp⟩ := List.mem_flatMap.1 hp
    exact (of_mem_wordsFrom hp).2
  have hiff := Wrapping.Holds.start.words_eq_iff size bold limit hpieces
  rw [chars_nil, List.nil_append, chars_words] at hiff
  simp only [toList_plainText]
  refine ⟨hiff, fun h => hiff.2 fun before p behind hp hgo => ?_⟩
  exact absurd hgo (not_goesOn_of_words h hp)

end SlideDeck.Layout
