import SlideDeck.Text.Units

/-! Cutting a text at a place that is counted in units. The cut succeeds exactly at the places
between characters, so a span names a piece of a text exactly when both its ends are such places.
The other places lie behind the text, or inside of a character that takes two units. -/

namespace SlideDeck

namespace Text

theorem unitsOf_pos (c : Char) : 0 < unitsOf c := by
  unfold unitsOf
  split <;> omega

@[simp] theorem units_empty : units "" = 0 := rfl

theorem unitsIn_eq_zero_iff {cs : List Char} : unitsIn cs = 0 ↔ cs = [] := by
  cases cs with
  | nil => simp
  | cons c cs =>
    have := unitsOf_pos c
    simp only [unitsIn_cons, reduceCtorEq, iff_false]
    omega

theorem units_eq_zero_iff {s : String} : units s = 0 ↔ s = "" :=
  unitsIn_eq_zero_iff.trans String.toList_eq_nil_iff

theorem splitUnits_append (before after : List Char) :
    splitUnits (unitsIn before) (before ++ after) = some (before, after) := by
  induction before with
  | nil => simp [splitUnits]
  | cons c before ih =>
    obtain ⟨n, hn⟩ : ∃ n, unitsOf c + unitsIn before = n + 1 :=
      ⟨_, (Nat.sub_add_cancel (Nat.le_add_right_of_le (unitsOf_pos c))).symm⟩
    have hrest : n + 1 - unitsOf c = unitsIn before := by omega
    rw [unitsIn_cons, hn, List.cons_append, splitUnits, if_pos (by omega), hrest, ih]
    rfl

theorem splitUnits_eq_some_iff {n : Nat} {cs before after : List Char} :
    splitUnits n cs = some (before, after) ↔ cs = before ++ after ∧ unitsIn before = n := by
  constructor
  · -- The recursion takes one character at a time, so the part in front grows with it.
    intro h
    fun_induction splitUnits n cs generalizing before with
    | case1 cs => simp_all
    | case2 => simp at h
    | case3 n c cs hle ih =>
      obtain ⟨⟨b, a⟩, hb, he⟩ := Option.map_eq_some_iff.1 h
      obtain ⟨rfl, rfl⟩ : c :: b = before ∧ a = after := by simpa using he
      obtain ⟨rfl, hn⟩ := ih hb
      refine ⟨rfl, ?_⟩
      rw [unitsIn_cons]
      omega
    | case4 => simp at h
  · rintro ⟨rfl, rfl⟩
    exact splitUnits_append before after

/-- A place between two characters of the text, or at one of its ends. -/
def Boundary (text : String) (n : Nat) : Prop :=
  ∃ before after, text = before ++ after ∧ units before = n

theorem Boundary.le_units {text : String} {n : Nat} (h : Boundary text n) : n ≤ units text := by
  obtain ⟨before, after, rfl, rfl⟩ := h
  rw [units_append]
  omega

def InsidePair (text : String) (n : Nat) : Prop :=
  ∃ before c after, text.toList = before ++ c :: after ∧ unitsOf c = 2 ∧ n = unitsIn before + 1

theorem splitUnits_eq_none {n : Nat} {cs : List Char} (h : splitUnits n cs = none) :
    unitsIn cs < n ∨
      ∃ before c after, cs = before ++ c :: after ∧ unitsOf c = 2 ∧ n = unitsIn before + 1 := by
  fun_induction splitUnits n cs with
  | case1 => simp at h
  | case2 n => exact .inl (Nat.succ_pos n)
  | case3 n c cs hle ih =>
    rcases ih (Option.map_eq_none_iff.1 h) with hlt | ⟨before, d, after, rfl, hd, hn⟩
    · refine .inl ?_
      rw [unitsIn_cons]
      omega
    · refine .inr ⟨c :: before, d, after, rfl, hd, ?_⟩
      rw [unitsIn_cons]
      omega
  | case4 n c cs hlong =>
    -- Only a character of two units is too long here, and one unit of it is asked for.
    have hle : unitsOf c ≤ 2 := by
      unfold unitsOf
      split <;> omega
    refine .inr ⟨[], c, cs, rfl, by omega, ?_⟩
    rw [unitsIn_nil]
    omega

theorem InsidePair.not_boundary {text : String} {n : Nat} (h : InsidePair text n) :
    ¬Boundary text n := by
  obtain ⟨before, c, after, htext, hc, rfl⟩ := h
  rintro ⟨upto, rest, rfl, hunits⟩
  have hupto : unitsIn upto.toList = unitsIn before + 1 := hunits
  rw [String.toList_append] at htext
  rcases List.append_eq_append_iff.1 htext with ⟨piece, hbefore, -⟩ | ⟨piece, hlong, hpiece⟩
  · rw [hbefore, unitsIn_append] at hupto
    omega
  · rw [hlong, unitsIn_append] at hupto
    cases piece with
    | nil => simp at hupto
    | cons d piece =>
      obtain rfl : c = d := (List.cons.inj hpiece).1
      rw [unitsIn_cons] at hupto
      omega

theorem not_boundary_iff {text : String} {n : Nat} :
    ¬Boundary text n ↔ units text < n ∨ InsidePair text n := by
  constructor
  · intro h
    refine splitUnits_eq_none (Option.eq_none_iff_forall_ne_some.2 fun cut hcut => h ?_)
    obtain ⟨htext, hn⟩ := splitUnits_eq_some_iff.1 hcut
    refine ⟨.ofList cut.1, .ofList cut.2, ?_, ?_⟩
    · rw [← String.toList_inj]
      simpa using htext
    · simpa [units] using hn
  · rintro (hlt | hinside) hboundary
    · exact absurd hboundary.le_units (Nat.not_le.2 hlt)
    · exact hinside.not_boundary hboundary

end Text

namespace Span

theorem isEmpty_eq_false_iff {span : Span} : span.isEmpty = false ↔ span.start < span.stop := by
  simp only [isEmpty, size, beq_eq_false_iff_ne]
  omega

theorem slice_eq_some_iff {span : Span} {text piece : String} :
    span.slice text = some piece ↔
      ∃ before after, text = before ++ (piece ++ after) ∧ Text.units before = span.start ∧
        Text.units before + Text.units piece = span.stop := by
  constructor
  · intro h
    unfold slice at h
    split at h
    next hle =>
      obtain ⟨⟨before, rest⟩, hb, h⟩ := Option.bind_eq_some_iff.1 h
      obtain ⟨⟨inner, after⟩, hi, h⟩ := Option.bind_eq_some_iff.1 h
      obtain rfl : String.ofList inner = piece := by simpa using h
      obtain ⟨ht, hstart⟩ := Text.splitUnits_eq_some_iff.1 hb
      obtain ⟨rfl, hsize⟩ := Text.splitUnits_eq_some_iff.1 hi
      refine ⟨.ofList before, .ofList after, ?_, ?_, ?_⟩
      · rw [← String.toList_inj]
        simpa using ht
      · simpa [Text.units] using hstart
      · have hs : Text.unitsIn inner = span.stop - span.start := hsize
        simp only [Text.units, String.toList_ofList]
        omega
    next => simp at h
  · rintro ⟨before, after, rfl, hstart, hstop⟩
    have hb : Text.splitUnits span.start (before ++ (piece ++ after)).toList =
        some (before.toList, piece.toList ++ after.toList) := by
      simpa [hstart.symm, Text.units] using Text.splitUnits_append before.toList _
    have hi : Text.splitUnits span.size (piece.toList ++ after.toList) =
        some (piece.toList, after.toList) := by
      have hsize : span.size = Text.unitsIn piece.toList := by
        simp only [size, ← hstop, ← hstart, Text.units]
        omega
      rw [hsize, Text.splitUnits_append]
    rw [slice, if_pos (by omega), hb]
    simp [hi]

theorem slice_of_append (before piece after : String) :
    slice ⟨Text.units before, Text.units before + Text.units piece⟩ (before ++ (piece ++ after)) =
      some piece :=
  slice_eq_some_iff.2 ⟨before, after, rfl, rfl, rfl⟩

theorem isSome_slice_iff {span : Span} {text : String} :
    (span.slice text).isSome ↔
      span.start ≤ span.stop ∧ Text.Boundary text span.start ∧ Text.Boundary text span.stop := by
  rw [Option.isSome_iff_exists]
  constructor
  · rintro ⟨piece, h⟩
    obtain ⟨before, after, rfl, hstart, hstop⟩ := slice_eq_some_iff.1 h
    refine ⟨by omega, ⟨before, piece ++ after, rfl, hstart⟩, ⟨before ++ piece, after, ?_, ?_⟩⟩
    · rw [String.append_assoc]
    · rw [Text.units_append, hstop]
  · rintro ⟨hle, ⟨before, rest, rfl, hstart⟩, ⟨upto, after, htext, hstop⟩⟩
    -- The shorter of the two cuts is a cut of the part in front of the longer one.
    obtain ⟨piece, hu⟩ : ∃ piece, upto.toList = before.toList ++ piece := by
      have h : before.toList ++ rest.toList = upto.toList ++ after.toList := by
        simpa using congrArg String.toList htext
      rcases List.append_eq_append_iff.1 h with ⟨piece, hu, -⟩ | ⟨piece, hb, hr⟩
      · exact ⟨piece, hu⟩
      · have hu : Text.units before = Text.units upto + Text.unitsIn piece := by
          simp [Text.units, hb]
        obtain rfl : piece = [] := Text.unitsIn_eq_zero_iff.1 (by omega)
        exact ⟨[], by simp [hb]⟩
    refine ⟨.ofList piece, slice_eq_some_iff.2 ⟨before, after, ?_, hstart, ?_⟩⟩
    · rw [htext, ← String.append_assoc, ← String.toList_inj]
      simp [hu]
    · rw [← hstop]
      simp [Text.units, hu]

/-- A span names the piece of a text that starts and stops where the span does. It names none exactly
if it stops before it starts, or if one of its ends lies behind the text or between the two units of
a character. -/
theorem spans_name_pieces (span : Span) (text : String) :
    (∀ piece, span.slice text = some piece ↔
        ∃ before after, text = before ++ piece ++ after ∧ Text.units before = span.start ∧
          Text.units (before ++ piece) = span.stop) ∧
      (span.slice text = none ↔
        span.stop < span.start ∨
          ∃ n ∈ [span.start, span.stop], Text.units text < n ∨ Text.InsidePair text n) := by
  refine ⟨fun piece => ?_, ?_⟩
  · simp only [slice_eq_some_iff, String.append_assoc, Text.units_append]
  · rw [← Option.not_isSome_iff_eq_none, isSome_slice_iff, Classical.not_and_iff_not_or_not,
      Classical.not_and_iff_not_or_not, Text.not_boundary_iff, Text.not_boundary_iff, Nat.not_le]
    simp only [List.mem_cons, List.not_mem_nil, or_false, exists_eq_or_imp, exists_eq_left]

end Span

end SlideDeck
