import Mathlib.Data.List.Basic
import SlideDeck.Svg.Escape

/-! Escaped text is read back, and it has none of the characters that end a piece of markup.
Replacing one character after the other in the whole text gives the same text as escaping each
character once, since no entity holds a character that is replaced after it. -/

namespace SlideDeck.Svg

theorem escapeChar_cases (c : Char) :
    (c, escapeChar c) ∈ entities ∨ (entities.lookup c = none ∧ escapeChar c = [c]) := by
  cases h : entities.lookup c with
  | some entity =>
    obtain ⟨before, after, hsplit, -⟩ := List.lookup_eq_some_iff.1 h
    refine .inl ?_
    rw [hsplit, escapeChar, h, Option.getD_some]
    exact List.mem_append_right before List.mem_cons_self
  | none => exact .inr ⟨rfl, by simp [escapeChar, h]⟩

theorem unescape?_entity {e : Char × List Char} (he : e ∈ entities) (rest : List Char) :
    unescape? (e.2 ++ rest) = (unescape? rest).map (e.1 :: ·) := by
  simp only [entities, List.mem_cons, List.not_mem_nil, or_false] at he
  rcases he with rfl | rfl | rfl | rfl | rfl <;> rfl

theorem unescape?_cons {c : Char} (h : c ≠ '&') (cs : List Char) :
    unescape? (c :: cs) = (unescape? cs).map (c :: ·) := by
  rw [unescape?] <;> simp [h]

theorem unescape?_escapeChar (c : Char) (rest : List Char) :
    unescape? (escapeChar c ++ rest) = (unescape? rest).map (c :: ·) := by
  rcases escapeChar_cases c with hentity | ⟨hnone, hself⟩
  · exact unescape?_entity hentity rest
  · have hamp : c ≠ '&' := by
      rintro rfl
      cases hnone
    rw [hself, List.singleton_append, unescape?_cons hamp]

theorem unescape?_escape_append (cs rest : List Char) :
    unescape? (escape cs ++ rest) = (unescape? rest).map (cs ++ ·) := by
  induction cs with
  | nil => simp [escape]
  | cons c cs ih =>
    have hcons : escape (c :: cs) = escapeChar c ++ escape cs := List.flatMap_cons
    rw [hcons, List.append_assoc, unescape?_escapeChar, ih, Option.map_map]
    rfl

theorem unescape?_escape (cs : List Char) : unescape? (escape cs) = some cs := by
  simpa [unescape?] using unescape?_escape_append cs []

theorem not_mem_escape {c : Char} (hc : entities.lookup c ≠ none)
    (hwriting : ∀ e ∈ entities, c ∉ e.2) (cs : List Char) : c ∉ escape cs := by
  intro hmem
  obtain ⟨x, -, hx⟩ := List.mem_flatMap.1 hmem
  rcases escapeChar_cases x with hentity | ⟨hnone, hself⟩
  · exact hwriting _ hentity hx
  · rw [hself, List.mem_singleton] at hx
    exact hc (hx ▸ hnone)

theorem entity_of_ampersand {c : Char} {before behind : List Char}
    (h : escapeChar c = before ++ '&' :: behind) :
    ∃ e ∈ entities, e.2 = '&' :: behind := by
  have hstart : ∀ e ∈ entities, e.2.head? = some '&' ∧ '&' ∉ e.2.tail := by decide
  rcases escapeChar_cases c with hentity | ⟨hnone, hself⟩
  · obtain ⟨-, htail⟩ := hstart _ hentity
    rw [h] at hentity htail
    cases before with
    | nil => exact ⟨_, hentity, rfl⟩
    | cons x before => exact absurd (List.mem_append_right before List.mem_cons_self) htail
  · have hmem : '&' ∈ escapeChar c := h ▸ List.mem_append_right before List.mem_cons_self
    rw [hself, List.mem_singleton] at hmem
    subst hmem
    cases hnone

theorem entity_of_escape {cs before behind : List Char} (h : escape cs = before ++ '&' :: behind) :
    ∃ e ∈ entities, e.2 <+: '&' :: behind := by
  induction cs generalizing before with
  | nil => simp [escape] at h
  | cons c cs ih =>
    have hcons : escape (c :: cs) = escapeChar c ++ escape cs := List.flatMap_cons
    rw [hcons] at h
    rcases List.append_eq_append_iff.1 h with ⟨rest, -, hrest⟩ | ⟨written, hc, hbehind⟩
    · exact ih hrest
    · cases written with
      | nil =>
        have hrest : escape cs = [] ++ '&' :: behind := hbehind.symm
        exact ih hrest
      | cons x written =>
        obtain ⟨rfl, rfl⟩ := List.cons.inj hbehind
        obtain ⟨e, he, hentity⟩ := entity_of_ampersand hc
        exact ⟨e, he, hentity ▸ List.prefix_append _ _⟩

section InTurn

theorem replaceAll_of_not_mem {c : Char} {cs : List Char} (h : c ∉ cs) (entity : List Char) :
    replaceAll c entity cs = cs := by
  have hkept : ∀ x ∈ cs, (if x = c then entity else [x]) = [x] := by
    intro x hx
    refine if_neg ?_
    rintro rfl
    exact h hx
  rw [replaceAll, List.flatMap_congr hkept, List.flatMap_singleton']

theorem foldl_replaceAll_of_not_mem {es : List (Char × List Char)} {cs : List Char}
    (h : ∀ e ∈ es, e.1 ∉ cs) : es.foldl (fun cs e => replaceAll e.1 e.2 cs) cs = cs := by
  induction es with
  | nil => rfl
  | cons e es ih =>
    rw [List.foldl_cons, replaceAll_of_not_mem (h e List.mem_cons_self)]
    exact ih fun e he => h e (List.mem_cons_of_mem _ he)

theorem foldl_replaceAll (es : List (Char × List Char)) (cs : List Char) :
    es.foldl (fun cs e => replaceAll e.1 e.2 cs) cs =
      cs.flatMap fun c => es.foldl (fun cs e => replaceAll e.1 e.2 cs) [c] := by
  induction es generalizing cs with
  | nil => exact (List.flatMap_singleton' cs).symm
  | cons e es ih =>
    rw [List.foldl_cons, ih, replaceAll, List.flatMap_assoc]
    refine List.flatMap_congr fun c _ => ?_
    rw [List.foldl_cons, ih (replaceAll e.1 e.2 [c]), replaceAll, List.flatMap_singleton]

/-- A character is replaced once if what stands for it has none of those that are replaced later. -/
theorem foldl_replaceAll_singleton {es : List (Char × List Char)}
    (h : es.Pairwise fun e later => later.1 ∉ e.2) (c : Char) :
    es.foldl (fun cs e => replaceAll e.1 e.2 cs) [c] = (es.lookup c).getD [c] := by
  induction es with
  | nil => rfl
  | cons e es ih =>
    obtain ⟨hlater, hrest⟩ := List.pairwise_cons.1 h
    rw [List.foldl_cons, List.lookup_cons]
    by_cases hc : c = e.1
    · have hentity : replaceAll e.1 e.2 [c] = e.2 := by simp [replaceAll, hc]
      rw [hentity, foldl_replaceAll_of_not_mem hlater, hc, beq_self_eq_true]
      rfl
    · have hkept : replaceAll e.1 e.2 [c] = [c] :=
        replaceAll_of_not_mem (by simpa using Ne.symm hc) e.2
      rw [hkept, beq_false_of_ne hc]
      exact ih hrest

theorem escapeInTurn_eq (cs : List Char) : escapeInTurn cs = escape cs := by
  rw [escapeInTurn, foldl_replaceAll, escape]
  exact List.flatMap_congr fun c _ => foldl_replaceAll_singleton (by decide) c

end InTurn

/-- The replacements made in turn write every character once, by its entity if it has one. What is
written has no angle bracket and no quotation mark, an ampersand in it begins one of the entities,
and the text is read back from it in one pass. -/
theorem escaped_in_turn_reads_back (cs : List Char) :
    escapeInTurn cs = escape cs ∧
      (∀ c ∈ ['<', '>', '"', '\x27'], c ∉ escapeInTurn cs) ∧
      (∀ before behind, escapeInTurn cs = before ++ '&' :: behind →
        ∃ e ∈ entities, e.2 <+: '&' :: behind) ∧
      unescape? (escapeInTurn cs) = some cs := by
  rw [escapeInTurn_eq]
  refine ⟨rfl, ?_, fun before behind => entity_of_escape, unescape?_escape cs⟩
  simp only [List.forall_mem_cons, List.not_mem_nil, false_imp_iff, implies_true, and_true]
  refine ⟨?_, ?_, ?_, ?_⟩ <;> exact not_mem_escape (by decide) (by decide) cs

example : escapeInTurn "&lt;".toList = "&amp;lt;".toList := by decide

end SlideDeck.Svg
