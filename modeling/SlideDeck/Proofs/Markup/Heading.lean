import SlideDeck.Markup.Heading
import SlideDeck.Proofs.Text.Trim

/-! Heading lines by their characters: number signs, white space, and the heading's text. -/

namespace SlideDeck

namespace Text

theorem trimEnd_eq_self {cs : List Char} (h : ∀ c, cs.getLast? = some c → isBlank c = false) :
    trimEnd cs = cs := by
  have hhead : cs.reverse.dropWhile isBlank = cs.reverse := by
    cases hcs : cs.reverse with
    | nil => rfl
    | cons c rest =>
      have hlast : cs.getLast? = some c := by rw [← List.head?_reverse, hcs, List.head?_cons]
      exact List.dropWhile_cons_of_neg (by simp [h c hlast])
  rw [trimEnd, hhead, List.reverse_reverse]

theorem trimStart_append {gap text : List Char} (hgap : ∀ c ∈ gap, isBlank c = true)
    (htext : ∀ c, text.head? = some c → isBlank c = false) : trimStart (gap ++ text) = text := by
  rw [trimStart, List.dropWhile_append_of_pos hgap]
  cases text with
  | nil => rfl
  | cons c rest => exact List.dropWhile_cons_of_neg (by simp [htext c rfl])

end Text

namespace Markup

open Text (isBlank trim trimStart trimEnd)

/-- The line is made of number signs, white space, and the text of the heading. -/
def IsHeading (line : String) (h : Heading) : Prop :=
  ∃ (marks : Nat) (gap : List Char),
    line.toList = List.replicate marks '#' ++ (gap ++ h.text.toList) ∧
      0 < marks ∧ h.level.toNat = min marks 6 ∧
      gap ≠ [] ∧ (∀ c ∈ gap, isBlank c = true) ∧
      ∀ c, h.text.toList.head? = some c → isBlank c = false

namespace Heading

theorem eq_replicate_of_read? {line : String} {h : Heading} (hread : read? line = some h) :
    ∃ marks c rest, line.toList = List.replicate marks '#' ++ c :: rest ∧ 0 < marks ∧
      isBlank c = true ∧ h = ⟨UInt8.ofNat (min marks maxLevel), .ofList (trim rest)⟩ := by
  unfold read? at hread
  split at hread
  next c rest hbehind =>
    dsimp only at hread
    split at hread
    next hok =>
      obtain ⟨hmarks, hblank⟩ := Bool.and_eq_true_iff.1 hok
      refine ⟨_, c, rest, ?_, ?_, hblank, (Option.some.inj hread).symm⟩
      · rw [← Text.takeWhile_eq_replicate, ← hbehind, List.takeWhile_append_dropWhile]
      · exact List.length_pos_iff.2 (by simpa using hmarks)
    next => cases hread
  next => cases hread

theorem read?_of_eq_replicate {line : String} {marks : Nat} {c : Char} {rest : List Char}
    (hline : line.toList = List.replicate marks '#' ++ c :: rest) (hmarks : 0 < marks)
    (hblank : isBlank c = true) :
    read? line = some ⟨UInt8.ofNat (min marks maxLevel), .ofList (trim rest)⟩ := by
  have hc : (c :: rest).head? ≠ some '#' := by
    rintro hc
    obtain rfl := Option.some.inj hc
    cases hblank
  rw [read?, hline, Text.takeWhile_replicate_append hc, Text.dropWhile_replicate_append hc]
  simp [hblank, hmarks.ne']

theorem text_ne_empty {line : String} {h : Heading} (hread : read? line = some h)
    (hline : ∀ c, line.toList.getLast? = some c → isBlank c = false) : h.text ≠ "" := by
  obtain ⟨marks, c, rest, hsplit, -, hblank, rfl⟩ := eq_replicate_of_read? hread
  intro hempty
  have hrest : ∀ x ∈ rest, isBlank x = true :=
    Text.trim_eq_nil_iff.1 (String.ofList_eq_empty_iff.1 hempty)
  have hall : ∀ x ∈ c :: rest, isBlank x = true := List.forall_mem_cons.2 ⟨hblank, hrest⟩
  -- The last character of the line is one behind the marks, and all of those are blank.
  obtain ⟨x, hx⟩ : ∃ x, (c :: rest).getLast? = some x :=
    ⟨_, List.getLast?_eq_some_getLast (List.cons_ne_nil c rest)⟩
  have hlast := hline x (by rw [hsplit, List.getLast?_append, hx, Option.some_or])
  rw [hall x (List.mem_of_getLast? hx)] at hlast
  cases hlast

theorem read?_eq_some_iff {line : String} {h : Heading}
    (hline : ∀ c, line.toList.getLast? = some c → isBlank c = false) :
    read? line = some h ↔ IsHeading line h := by
  have hlast (before text : List Char) (hsplit : line.toList = before ++ text) :
      trimEnd text = text :=
    Text.trimEnd_eq_self fun c hc => hline c (by rw [hsplit, List.getLast?_append, hc]; rfl)
  have hsmall (marks : Nat) : min marks 6 < 2 ^ 8 := by omega
  constructor
  · intro hread
    obtain ⟨marks, c, rest, hsplit, hmarks, hblank, rfl⟩ := eq_replicate_of_read? hread
    have hrest : rest.takeWhile isBlank ++ trimStart rest = rest := List.takeWhile_append_dropWhile
    have htext : trim rest = trimStart rest :=
      hlast (List.replicate marks '#' ++ c :: rest.takeWhile isBlank) _ (by
        rw [hsplit, List.append_assoc, List.cons_append, hrest])
    refine ⟨marks, c :: rest.takeWhile isBlank, ?_, hmarks, ?_, by simp, ?_, ?_⟩
    · rw [String.toList_ofList, htext, List.cons_append, hrest, hsplit]
    · exact UInt8.toNat_ofNat_of_lt' (hsmall marks)
    · intro x hx
      rcases List.mem_cons.1 hx with rfl | hx
      · exact hblank
      · exact List.mem_takeWhile_imp hx
    · intro x hx
      have hhead := List.head?_dropWhile_not isBlank rest
      rw [String.toList_ofList, htext, trimStart] at hx
      simpa [hx] using hhead
  · rintro ⟨marks, gap, hsplit, hmarks, hlevel, hne, hgap, htext⟩
    obtain ⟨c, gap, rfl⟩ := List.exists_cons_of_ne_nil hne
    have htrim : trim (gap ++ h.text.toList) = h.text.toList := by
      rw [trim, Text.trimStart_append (fun x hx => hgap x (List.mem_cons_of_mem _ hx)) htext]
      exact hlast (List.replicate marks '#' ++ c :: gap) _ (by simp [hsplit])
    have hlevel' : UInt8.ofNat (min marks maxLevel) = h.level :=
      UInt8.toNat_inj.1 ((UInt8.toNat_ofNat_of_lt' (hsmall marks)).trans hlevel.symm)
    have hread := read?_of_eq_replicate hsplit hmarks (hgap c List.mem_cons_self)
    rwa [List.append_eq, htrim, hlevel', String.ofList_toList] at hread

end Heading

end Markup

end SlideDeck
