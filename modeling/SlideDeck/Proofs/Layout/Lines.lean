import SlideDeck.Layout.Wrap
import SlideDeck.Proofs.Text.Trim

/-! Lines of runs, and what wrapping does to them. A run is cut into pieces, a piece is pushed onto a
line, and a line is trimmed at its end; in between, a piece may send the wrapping to a new line. -/

namespace SlideDeck.Layout

def chars (rs : List Run) : List Char := rs.flatMap fun r => r.text.toList

@[simp] theorem chars_nil : chars [] = [] := rfl

@[simp] theorem chars_cons (r : Run) (rs : List Run) : chars (r :: rs) = r.text.toList ++ chars rs :=
  List.flatMap_cons

@[simp] theorem chars_append (rs rs' : List Run) : chars (rs ++ rs') = chars rs ++ chars rs' :=
  List.flatMap_append

theorem toList_plainText (rs : List Run) : (plainText rs).toList = chars rs := by
  rw [plainText, String.toList_join, List.flatMap_map]
  rfl

/-! ## Pieces -/

theorem chars_wordsFrom (bold : Bool) (word cs : List Char) :
    chars (wordsFrom bold word cs) = word.reverse ++ cs := by
  induction cs generalizing word with
  | nil => cases word <;> simp [wordsFrom]
  | cons c cs ih =>
    rw [wordsFrom]
    split <;> simp [ih]

theorem chars_words (runs : List Run) : chars (words runs) = chars runs := by
  induction runs with
  | nil => rfl
  | cons r runs ih =>
    rw [words, List.flatMap_cons, chars_append, chars_wordsFrom, ← words, ih, chars_cons]
    rfl

theorem of_mem_wordsFrom {bold : Bool} {word cs : List Char} {p : Run}
    (h : p ∈ wordsFrom bold word cs) : p.bold = bold ∧ p.text.toList ≠ [] := by
  induction cs generalizing word with
  | nil => cases word <;> simp [wordsFrom] at h; simp [h]
  | cons c cs ih =>
    rw [wordsFrom] at h
    split at h
    next hcut =>
      rcases List.mem_cons.1 h with rfl | h
      · cases word <;> simp at hcut ⊢
      · exact ih h
    next => exact ih h

/-! ## Pushing and trimming -/

theorem pushWord_cases (line : List Run) (word : Run) :
    (∃ front last, line = front ++ [last] ∧ last.bold = word.bold ∧
      pushWord line word = front ++ [⟨last.text ++ word.text, last.bold⟩]) ∨
    ((∀ last ∈ line.getLast?, last.bold ≠ word.bold) ∧ pushWord line word = line ++ [word]) := by
  fun_induction pushWord line word with
  | case1 => simp
  | case2 last h => exact .inl ⟨[], last, rfl, h, rfl⟩
  | case3 last h => simp [h]
  | case4 r rest h ih =>
    obtain ⟨q, rest, rfl⟩ := List.exists_cons_of_ne_nil h
    rcases ih with ⟨front, last, hline, hbold, hpush⟩ | ⟨hlast, hpush⟩
    · exact .inl ⟨r :: front, last, by rw [hline, List.cons_append], hbold, by
        rw [hpush, List.cons_append]⟩
    · exact .inr ⟨by simpa using hlast, by rw [hpush]; rfl⟩

theorem chars_pushWord (line : List Run) (word : Run) :
    chars (pushWord line word) = chars line ++ word.text.toList := by
  rcases pushWord_cases line word with ⟨front, last, rfl, -, hpush⟩ | ⟨-, hpush⟩ <;> simp [hpush]

theorem trimLine_cases (line : List Run) :
    (trimLine line = [] ∧ ∀ c ∈ chars line, Text.isBlank c = true) ∨
    ∃ front r rest, line = front ++ r :: rest ∧ (∀ c ∈ chars rest, Text.isBlank c = true) ∧
      Text.trimEnd r.text.toList ≠ [] ∧
      trimLine line = front ++ [⟨.ofList (Text.trimEnd r.text.toList), r.bold⟩] := by
  induction line with
  | nil => exact .inl ⟨rfl, by simp⟩
  | cons r rest ih =>
    rcases ih with ⟨hnil, hblank⟩ | ⟨front, s, behind, hrest, hblank, htext, htrim⟩
    · by_cases htext : Text.trimEnd r.text.toList = []
      · refine .inl ⟨by simp [trimLine, hnil, htext], ?_⟩
        exact List.forall_mem_append.2 ⟨List.rdropWhile_eq_nil_iff.1 htext, hblank⟩
      · exact .inr ⟨[], r, rest, rfl, hblank, htext, by simp [trimLine, hnil, htext]⟩
    · refine .inr ⟨r :: front, s, behind, by rw [hrest, List.cons_append], hblank, htext, ?_⟩
      rw [trimLine, htrim]
      cases front <;> rfl

theorem chars_trimLine (line : List Run) : chars (trimLine line) = Text.trimEnd (chars line) := by
  rcases trimLine_cases line with ⟨hnil, hblank⟩ | ⟨front, r, rest, rfl, hblank, htext, htrim⟩
  · rw [hnil, chars_nil]
    exact (List.rdropWhile_eq_nil_iff.2 hblank).symm
  · have hlast : Text.trimEnd (chars (r :: rest)) = Text.trimEnd r.text.toList := by
      rw [chars_cons, Text.trimEnd_append_of_blank hblank]
    rw [htrim, chars_append, chars_append, Text.trimEnd_append_eq_ite, hlast, if_neg htext]
    simp

/-! ## Steps -/

namespace Wrapping

def Overflows (size : Float32) (bold : Bool) (limit : Float32) (w : Wrapping) (p : Run) : Prop :=
  limit < w.width + textWidth (Text.trimEnd p.text.toList) size (bold || p.bold)

/-- The characters of a piece that come onto the line, which does not start with white space. -/
def placed (w : Wrapping) (p : Run) : List Char :=
  if w.line = [] then Text.trimStart p.text.toList else p.text.toList

theorem place_cases (w : Wrapping) (size : Float32) (bold : Bool) (p : Run) :
    (w.placed p = [] ∧ w.place size bold p = w) ∨
      (w.placed p ≠ [] ∧ ∃ width, w.place size bold p =
        { w with line := pushWord w.line ⟨.ofList (w.placed p), p.bold⟩, width }) := by
  have hword : (if w.line.isEmpty then ⟨.ofList (Text.trimStart p.text.toList), p.bold⟩ else p) =
      (⟨.ofList (w.placed p), p.bold⟩ : Run) := by
    by_cases hline : w.line = [] <;> simp [placed, hline]
  simp only [place, hword]
  by_cases hnil : w.placed p = []
  · exact .inl ⟨hnil, if_pos (by simp [hnil])⟩
  · exact .inr ⟨hnil, _, if_neg (by simpa using hnil)⟩

theorem step_cases (size : Float32) (bold : Bool) (limit : Float32) (w : Wrapping) (p : Run) :
    ((w.line ≠ [] ∧ w.Overflows size bold limit p) ∧
        w.step size bold limit p = w.endLine.place size bold p) ∨
      (¬ (w.line ≠ [] ∧ w.Overflows size bold limit p) ∧
        w.step size bold limit p = w.place size bold p) := by
  by_cases hend : w.line ≠ [] ∧ w.Overflows size bold limit p
  · refine .inl ⟨hend, ?_⟩
    rw [step, if_pos]
    simpa [Overflows] using hend
  · refine .inr ⟨hend, ?_⟩
    rw [step, if_neg]
    simpa [Overflows] using hend

end Wrapping

end SlideDeck.Layout
