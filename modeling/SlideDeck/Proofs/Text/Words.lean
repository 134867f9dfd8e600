import Mathlib.Data.List.DropRight
import SlideDeck.Proofs.Text.Trim

/-! The words of a text, and what becomes of them when the text is cut. A cut inside of a word makes
two of it, and any other cut leaves the words as they are. -/

namespace SlideDeck.Text

def words (cs : List Char) : List (List Char) := (cs.splitOnP isBlank).filter fun w => !w.isEmpty

/-- The second text goes on with the word that the first one ends in. -/
def GoesOn (xs ys : List Char) : Prop :=
  (∃ c, xs.getLast? = some c ∧ isBlank c = false) ∧ ∃ c, ys.head? = some c ∧ isBlank c = false

variable {cs gap xs ys : List Char}

theorem goesOn_append_left (h : ys ≠ []) {zs : List Char} :
    GoesOn (xs ++ ys) zs ↔ GoesOn ys zs := by
  rw [GoesOn, GoesOn, List.getLast?_append_of_ne_nil xs h]

theorem goesOn_append_right (h : xs ≠ []) {zs : List Char} :
    GoesOn zs (xs ++ ys) ↔ GoesOn zs xs := by
  rw [GoesOn, GoesOn, List.head?_append_of_ne_nil xs h]

@[simp] theorem words_nil : words [] = [] := rfl

theorem words_append_cons {c : Char} (hc : isBlank c = true) (xs ys : List Char) :
    words (xs ++ c :: ys) = words xs ++ words ys := by
  rw [words, List.splitOnP_append_cons xs ys hc, List.filter_append, words, words]

theorem words_cons_of_blank {c : Char} (hc : isBlank c = true) (cs : List Char) :
    words (c :: cs) = words cs := words_append_cons hc [] cs

theorem words_concat_of_blank {c : Char} (hc : isBlank c = true) (cs : List Char) :
    words (cs ++ [c]) = words cs := by
  rw [words_append_cons hc, words_nil, List.append_nil]

theorem words_trimStart (cs : List Char) : words (trimStart cs) = words cs := by
  induction cs with
  | nil => rfl
  | cons c cs ih =>
    cases hc : isBlank c with
    | true => rw [trimStart, List.dropWhile_cons_of_pos hc, words_cons_of_blank hc, ← ih, trimStart]
    | false => rw [trimStart, List.dropWhile_cons_of_neg (by simp [hc])]

theorem words_trimEnd (cs : List Char) : words (trimEnd cs) = words cs := by
  induction cs using List.reverseRecOn with
  | nil => rfl
  | append_singleton cs c ih =>
    cases hc : isBlank c with
    | true => rw [trimEnd_concat_of_blank hc, ih, words_concat_of_blank hc]
    | false =>
      have hkeep : trimEnd (cs ++ [c]) = cs ++ [c] :=
        List.rdropWhile_concat_neg isBlank cs c (by simp [hc])
      rw [hkeep]

theorem words_of_letters (hne : cs ≠ []) (h : ∀ c ∈ cs, isBlank c = false) : words cs = [cs] := by
  rw [words, List.splitOnP_eq_singleton h]
  simp [hne]

theorem words_append (h : ¬ GoesOn xs ys) : words (xs ++ ys) = words xs ++ words ys := by
  rcases List.eq_nil_or_concat' xs with rfl | ⟨front, c, rfl⟩
  · simp
  · cases hc : isBlank c with
    | true =>
      rw [List.append_assoc, List.singleton_append, words_append_cons hc, words_concat_of_blank hc]
    | false =>
      cases ys with
      | nil => simp
      | cons d ys =>
        have hd : isBlank d = true := by
          by_contra hd
          exact h ⟨⟨c, by simp, hc⟩, d, rfl, by simpa using hd⟩
        rw [words_append_cons hd, words_cons_of_blank hd]

theorem exists_last_word (cs : List Char) : ∃ front w, cs = front ++ w ∧
    (∀ c ∈ w, isBlank c = false) ∧ ∀ c, front.getLast? = some c → isBlank c = true := by
  induction cs using List.reverseRecOn with
  | nil => exact ⟨[], [], by simp⟩
  | append_singleton cs c ih =>
    cases hc : isBlank c with
    | true => exact ⟨cs ++ [c], [], by simp [hc]⟩
    | false =>
      obtain ⟨front, w, rfl, hw, hfront⟩ := ih
      refine ⟨front, w ++ [c], by simp, fun d hd => ?_, hfront⟩
      rcases List.mem_append.1 hd with hd | hd
      · exact hw d hd
      · rw [List.mem_singleton.1 hd, hc]

theorem exists_first_word (cs : List Char) : ∃ w behind, cs = w ++ behind ∧
    (∀ c ∈ w, isBlank c = false) ∧ ∀ c, behind.head? = some c → isBlank c = true := by
  induction cs with
  | nil => exact ⟨[], [], by simp⟩
  | cons c cs ih =>
    cases hc : isBlank c with
    | true => exact ⟨[], c :: cs, by simp [hc]⟩
    | false =>
      obtain ⟨w, behind, rfl, hw, hbehind⟩ := ih
      exact ⟨c :: w, behind, rfl, List.forall_mem_cons.2 ⟨hc, hw⟩, hbehind⟩

theorem length_words_append (h : GoesOn xs ys) :
    (words xs).length + (words ys).length = (words (xs ++ ys)).length + 1 := by
  obtain ⟨⟨c, hc, hcblank⟩, d, hd, hdblank⟩ := h
  obtain ⟨front, w, rfl, hw, hfront⟩ := exists_last_word xs
  obtain ⟨v, behind, rfl, hv, hbehind⟩ := exists_first_word ys
  have hwne : w ≠ [] := by
    rintro rfl
    simp [hfront c (by simpa using hc)] at hcblank
  have hvne : v ≠ [] := by
    rintro rfl
    simp [hbehind d (by simpa using hd)] at hdblank
  have hbefore (zs : List Char) : words (front ++ zs) = words front ++ words zs :=
    words_append fun ⟨⟨e, he, heblank⟩, _⟩ => by simp [hfront e he] at heblank
  have hafter (zs : List Char) : words (zs ++ behind) = words zs ++ words behind :=
    words_append fun ⟨_, e, he, heblank⟩ => by simp [hbehind e he] at heblank
  -- The two ends that the cut separates are one word.
  have hwv : words (w ++ v) = [w ++ v] := by
    refine words_of_letters (by simp [hwne]) fun e he => ?_
    exact (List.mem_append.1 he).elim (hw e) (hv e)
  have hall : words (front ++ w ++ (v ++ behind)) = words front ++ [w ++ v] ++ words behind := by
    rw [← List.append_assoc, hafter, List.append_assoc, hbefore, hwv]
  rw [hall, hbefore, hafter, words_of_letters hwne hw, words_of_letters hvne hv]
  simp only [List.length_append, List.length_singleton]
  omega

theorem length_words_append_le (xs ys : List Char) :
    (words (xs ++ ys)).length ≤ (words xs).length + (words ys).length := by
  by_cases h : GoesOn xs ys
  · have hlength := length_words_append h
    omega
  · rw [words_append h, List.length_append]

end SlideDeck.Text
