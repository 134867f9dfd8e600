import Mathlib.Data.List.Chain
import SlideDeck.Proofs.Markup.Pairs

/-! Runs as they are written in a line. A line is cut into a plain text in front of each pair, the text
in the pair, and the plain text behind the last one, and nothing but the asterisks of the pairs is
lost. Written again, the runs of a line in which no pair is empty are read back. -/

namespace SlideDeck.Markup

def written (r : Run) : String := if r.bold then "**" ++ r.text ++ "**" else r.text

def markup (rs : List Run) : String := String.join (rs.map written)

def filled (rs : List Run) : List Run := rs.filter fun r => r.text ≠ ""

/-- A line taken apart at its pairs: for each pair the plain text in front of it and the text in it,
and the plain text behind the last one. -/
structure Parts where
  pairs : List (String × String)
  rest : String

def Parts.runs (p : Parts) : List Run :=
  (p.pairs.flatMap fun (before, inner) => [.plain before, .strong inner]) ++ [.plain p.rest]

structure Parts.Sound (p : Parts) : Prop where
  closed : ∀ q ∈ p.pairs, Closed q.1.toList ∧ Closed q.2.toList
  rest : ¬ HasPair p.rest.toList

@[simp] theorem markup_nil : markup [] = "" := rfl

@[simp] theorem markup_cons (r : Run) (rs : List Run) : markup (r :: rs) = written r ++ markup rs := by
  simp [markup]

@[simp] theorem written_plain (t : String) : written (.plain t) = t := rfl

@[simp] theorem written_strong (t : String) : written (.strong t) = "**" ++ t ++ "**" := rfl

theorem Parts.runs_cons (before inner : String) (pairs : List (String × String)) (rest : String) :
    Parts.runs ⟨(before, inner) :: pairs, rest⟩ =
      .plain before :: .strong inner :: Parts.runs ⟨pairs, rest⟩ := rfl

theorem filled_cons_of_empty {r : Run} (h : r.text = "") (rs : List Run) :
    filled (r :: rs) = filled rs :=
  List.filter_cons_of_neg (by simp [h])

theorem filled_cons_of_ne {r : Run} (h : r.text ≠ "") (rs : List Run) :
    filled (r :: rs) = r :: filled rs :=
  List.filter_cons_of_pos (by simp [h])

theorem Parts.filled_runs_cons (before inner : String) (pairs : List (String × String))
    (rest : String) : filled (Parts.runs ⟨(before, inner) :: pairs, rest⟩) =
      filled [.plain before] ++ (filled [.strong inner] ++ filled (Parts.runs ⟨pairs, rest⟩)) := by
  simp only [filled, ← List.filter_append]
  rfl

theorem Parts.Sound.cons {p : Parts} (h : p.Sound) (before inner : String)
    (hbefore : Closed before.toList) (hinner : Closed inner.toList) :
    Parts.Sound ⟨(before, inner) :: p.pairs, p.rest⟩ :=
  ⟨List.forall_mem_cons.2 ⟨⟨hbefore, hinner⟩, h.closed⟩, h.rest⟩

theorem plainRun_reverse (t : List Char) : plainRun t.reverse = filled [.plain (.ofList t)] := by
  cases t <;> simp [plainRun, filled, Run.plain]

theorem strongRun_eq (t : List Char) : strongRun t = filled [.strong (.ofList t)] := by
  cases t <;> simp [strongRun, filled, Run.strong]

theorem toList_markup (rs : List Run) :
    (markup rs).toList = rs.flatMap fun r => (written r).toList := by
  rw [markup, String.toList_join, List.flatMap_map]

theorem toList_markup_pair (before inner : String) (rs : List Run) :
    (markup (.plain before :: .strong inner :: rs)).toList =
      before.toList ++ (stars ++ (inner.toList ++ (stars ++ (markup rs).toList))) := by
  simp [stars]

theorem exists_parts (cs : List Char) : ∃ p : Parts, p.Sound ∧ (markup p.runs).toList = cs := by
  by_cases hpair : HasPair cs
  · obtain ⟨before, inner, after, hcs, hbefore, hinner⟩ := hpair.first
    have hshort : after.length < cs.length := by
      simp only [hcs, stars, List.length_append, List.length_cons]
      omega
    obtain ⟨p, hp, hafter⟩ := exists_parts after
    have hsound : Parts.Sound ⟨(.ofList before, .ofList inner) :: p.pairs, p.rest⟩ :=
      hp.cons _ _ (by simpa using hbefore) (by simpa using hinner)
    refine ⟨_, hsound, ?_⟩
    rw [Parts.runs_cons, toList_markup_pair, hafter, hcs, String.toList_ofList, String.toList_ofList]
  · exact ⟨⟨[], .ofList cs⟩, ⟨by simp, by simpa using hpair⟩, by simp [Parts.runs]⟩
termination_by cs.length

theorem Parts.Sound.read {p : Parts} (h : p.Sound) (hline : '\n' ∉ (markup p.runs).toList) :
    Markup.runs (markup p.runs) = filled p.runs := by
  obtain ⟨pairs, rest⟩ := p
  rw [Markup.runs]
  induction pairs with
  | nil =>
    have hrest : (markup (Parts.runs ⟨[], rest⟩)).toList = rest.toList := by simp [Parts.runs]
    rw [hrest, runsFrom_of_not_hasPair h.rest, List.append_nil, plainRun_reverse, String.ofList_toList]
    rfl
  | cons q pairs ih =>
    obtain ⟨before, inner⟩ := q
    obtain ⟨⟨hbefore, hinner⟩, hclosed⟩ := List.forall_mem_cons.1 h.closed
    rw [Parts.runs_cons, toList_markup_pair] at hline ⊢
    obtain ⟨hin, hafter⟩ : '\n' ∉ inner.toList ∧ '\n' ∉ (markup (Parts.runs ⟨pairs, rest⟩)).toList := by
      simp only [List.mem_append, not_or] at hline
      exact ⟨hline.2.2.1, hline.2.2.2.2⟩
    rw [runsFrom_pair hbefore hinner hin, ih ⟨hclosed, h.rest⟩ hafter, plainRun_reverse,
      strongRun_eq, String.ofList_toList, String.ofList_toList]
    exact (Parts.filled_runs_cons ..).symm

/-! ## Empty pairs -/

theorem markup_append (rs rs' : List Run) : markup (rs ++ rs') = markup rs ++ markup rs' := by
  simp [markup]

theorem written_of_empty {r : Run} (h : r.text = "") (hne : r ≠ .strong "") : written r = "" := by
  obtain ⟨t, bold⟩ := r
  cases bold with
  | false => exact h
  | true => exact absurd (congrArg Run.strong h) hne

theorem markup_filled (rs : List Run) : markup (filled rs) = markup (rs.filter (· ≠ .strong "")) := by
  induction rs with
  | nil => rfl
  | cons r rs ih =>
    by_cases hne : r = .strong ""
    · rw [filled_cons_of_empty (by rw [hne]; rfl), List.filter_cons_of_neg (by simpa using hne), ih]
    · rw [List.filter_cons_of_pos (by simpa using hne), markup_cons, ← ih]
      by_cases ht : r.text = ""
      · rw [filled_cons_of_empty ht, written_of_empty ht hne, String.empty_append]
      · rw [filled_cons_of_ne ht, markup_cons]

theorem length_markup_filled (rs : List Run) :
    (markup (filled rs)).length + 4 * rs.count (.strong "") = (markup rs).length := by
  induction rs with
  | nil => rfl
  | cons r rs ih =>
    rw [markup_cons, String.length_append]
    by_cases hne : r = .strong ""
    · have hfour : (written (.strong "")).length = 4 := rfl
      rw [hne, filled_cons_of_empty rfl, List.count_cons_self, hfour]
      omega
    · rw [List.count_cons_of_ne hne]
      by_cases ht : r.text = ""
      · rw [filled_cons_of_empty ht, written_of_empty ht hne, String.length_empty, Nat.zero_add, ih]
      · rw [filled_cons_of_ne ht, markup_cons, String.length_append]
        omega

theorem written_infix_markup {rs : List Run} {r : Run} (h : r ∈ rs) :
    (written r).toList <:+: (markup rs).toList := by
  obtain ⟨front, rest, rfl⟩ := List.append_of_mem h
  rw [markup_append, markup_cons, String.toList_append, String.toList_append]
  exact ⟨(markup front).toList, (markup rest).toList, List.append_assoc ..⟩

theorem infix_markup {rs : List Run} (h : .strong "" ∈ rs) : "****".toList <:+: (markup rs).toList := by
  simpa using written_infix_markup h

/-! ## Lines and their runs -/

theorem Parts.Sound.closed_of_mem {p : Parts} (h : p.Sound) {r : Run} (hr : r ∈ p.runs)
    (hbold : r.bold = true) : Closed r.text.toList := by
  rcases List.mem_append.1 hr with hr | hr
  · obtain ⟨q, hq, hr⟩ := List.mem_flatMap.1 hr
    rcases List.mem_pair.1 hr with rfl | rfl
    · cases hbold
    · exact (h.closed q hq).2
  · rw [List.mem_singleton.1 hr] at hbold
    cases hbold

theorem text_of_mem_runs {line : String} (hline : '\n' ∉ line.toList) {r : Run} (hr : r ∈ runs line) :
    r.text ≠ "" ∧ r.text.toList <:+: line.toList := by
  obtain ⟨p, hp, hsource⟩ := exists_parts line.toList
  have hsource : markup p.runs = line := String.toList_inj.1 hsource
  rw [← hsource] at hline hr ⊢
  rw [hp.read hline] at hr
  obtain ⟨hmem, hne⟩ := List.mem_filter.1 hr
  have hwritten : r.text.toList <:+: (written r).toList := by
    unfold written
    split
    · exact ⟨stars, stars, by simp [stars]⟩
    · exact List.infix_rfl
  exact ⟨of_decide_eq_true hne, hwritten.trans (written_infix_markup hmem)⟩

/-- A line is its parts, and its runs are the parts that are not empty. No pair is hidden in a part,
so the pairs are taken from the left, each as short as it can be. Written with their asterisks, the
runs give the line again, but for the asterisks of empty pairs. -/
theorem runs_give_line_back (line : String) (hline : '\n' ∉ line.toList) : ∃ p : Parts,
    p.Sound ∧ markup p.runs = line ∧ runs line = filled p.runs ∧
    markup (runs line) = markup (p.runs.filter (· ≠ .strong "")) ∧
    (¬ "****".toList <:+: line.toList → markup (runs line) = line) ∧
    ∀ r ∈ runs line, r.text ≠ "" ∧ (r.bold = true → Closed r.text.toList) := by
  obtain ⟨p, hp, hsource⟩ := exists_parts line.toList
  have hsource : markup p.runs = line := String.toList_inj.1 hsource
  have hread : runs line = filled p.runs := by
    rw [← hsource] at hline ⊢
    exact hp.read hline
  have hwritten : markup (runs line) = markup (p.runs.filter (· ≠ .strong "")) := by
    rw [hread, markup_filled]
  refine ⟨p, hp, hsource, hread, hwritten, fun hfour => ?_, fun r hr => ?_⟩
  · have hall : p.runs.filter (· ≠ .strong "") = p.runs := by
      refine List.filter_eq_self.2 fun r hr => ?_
      rw [decide_eq_true_eq]
      rintro rfl
      rw [← hsource] at hfour
      exact hfour (infix_markup hr)
    rw [hwritten, hall, hsource]
  · rw [hread] at hr
    obtain ⟨hr, hne⟩ := List.mem_filter.1 hr
    exact ⟨of_decide_eq_true hne, hp.closed_of_mem hr⟩

theorem crowded_line_written_again :
    let line := "***a***b** **c*"
    '\n' ∉ line.toList ∧ ¬ "****".toList <:+: line.toList ∧ markup (runs line) = line := by
  intro line
  have hfour : ¬ "****".toList <:+: line.toList := by decide
  obtain ⟨_, _, _, _, _, hsame, _⟩ := runs_give_line_back line (by decide)
  exact ⟨by decide, hfour, hsame hfour⟩

/-- The runs of a line in which no pair is empty. -/
inductive Settled : List Run → Prop
  | nil : Settled []
  | last {t : String} : t ≠ "" → ¬ HasPair t.toList → Settled [.plain t]
  | strong {t : String} {rs : List Run} : t ≠ "" → Closed t.toList → Settled rs →
      Settled (.strong t :: rs)
  | plain {t u : String} {rs : List Run} : t ≠ "" → Closed t.toList → u ≠ "" → Closed u.toList →
      Settled rs → Settled (.plain t :: .strong u :: rs)

theorem Settled.exists_parts {rs : List Run} (h : Settled rs) :
    ∃ p : Parts, p.Sound ∧ markup p.runs = markup rs ∧ filled p.runs = rs := by
  induction h with
  | nil => exact ⟨⟨[], ""⟩, ⟨by simp, by simp [HasPair, stars]⟩, rfl, rfl⟩
  | @last t hne hpair =>
    exact ⟨⟨[], t⟩, ⟨by simp, hpair⟩, rfl, by simp [Parts.runs, filled, Run.plain, hne]⟩
  | @strong t rs hne hclosed _ ih =>
    obtain ⟨p, hp, hmarkup, hfilled⟩ := ih
    refine ⟨_, hp.cons "" t closed_nil hclosed, ?_, ?_⟩
    · simp [Parts.runs_cons, hmarkup]
    · rw [Parts.runs_cons, filled_cons_of_empty rfl, filled_cons_of_ne hne, hfilled]
  | @plain t u rs hne hclosed hne' hclosed' _ ih =>
    obtain ⟨p, hp, hmarkup, hfilled⟩ := ih
    refine ⟨_, hp.cons t u hclosed hclosed', ?_, ?_⟩
    · simp [Parts.runs_cons, hmarkup]
    · rw [Parts.runs_cons, filled_cons_of_ne hne, filled_cons_of_ne hne', hfilled]

theorem Parts.Sound.settled {p : Parts} (h : p.Sound) (hne : .strong "" ∉ p.runs) :
    Settled (filled p.runs) := by
  obtain ⟨pairs, rest⟩ := p
  induction pairs with
  | nil =>
    by_cases hrest : rest = ""
    · simpa [Parts.runs, filled, Run.plain, hrest] using Settled.nil
    · simpa [Parts.runs, filled, Run.plain, hrest] using Settled.last hrest h.rest
  | cons q pairs ih =>
    obtain ⟨before, inner⟩ := q
    obtain ⟨⟨hbefore, hinner⟩, hclosed⟩ := List.forall_mem_cons.1 h.closed
    rw [Parts.runs_cons] at hne
    have hfull : inner ≠ "" := by
      rintro rfl
      simp at hne
    have hpairs : Settled (filled (Parts.runs ⟨pairs, rest⟩)) := ih ⟨hclosed, h.rest⟩ (by simp_all)
    by_cases hempty : before = ""
    · rw [Parts.runs_cons, filled_cons_of_empty hempty, filled_cons_of_ne hfull]
      exact .strong hfull hinner hpairs
    · rw [Parts.runs_cons, filled_cons_of_ne hempty, filled_cons_of_ne hfull]
      exact .plain hempty hbefore hfull hinner hpairs

theorem runs_markup_iff {rs : List Run} (hline : '\n' ∉ (markup rs).toList) :
    runs (markup rs) = rs ↔ Settled rs := by
  constructor
  · intro h
    obtain ⟨p, hp, hsource⟩ := Markup.exists_parts (markup rs).toList
    have hsource : markup p.runs = markup rs := String.toList_inj.1 hsource
    have hread : filled p.runs = rs := by
      rw [← hsource] at hline h
      rw [← hp.read hline, h]
    have hlength := length_markup_filled p.runs
    rw [hread, hsource] at hlength
    have hne : .strong "" ∉ p.runs := List.count_eq_zero.1 (by omega)
    rw [← hread]
    exact hp.settled hne
  · intro h
    obtain ⟨p, hp, hsource, hfilled⟩ := h.exists_parts
    rw [← hsource] at hline ⊢
    rw [hp.read hline, hfilled]

/-- Runs that can be told apart when they are written one behind the other. -/
structure Legible (rs : List Run) : Prop where
  filled : ∀ r ∈ rs, r.text ≠ ""
  apart : rs.IsChain fun r s => r.bold = true ∨ s.bold = true
  strong : ∀ r ∈ rs, r.bold = true → Closed r.text.toList
  plain : ∀ r ∈ rs, r.bold = false → ¬ stars <:+: r.text.toList
  before : rs.IsChain fun r s => r.bold = false → s.bold = true → r.text.toList.getLast? ≠ some '*'

theorem Legible.tail {r : Run} {rs : List Run} (h : Legible (r :: rs)) : Legible rs where
  filled := (List.forall_mem_cons.1 h.filled).2
  apart := h.apart.tail
  strong := (List.forall_mem_cons.1 h.strong).2
  plain := (List.forall_mem_cons.1 h.plain).2
  before := h.before.tail

theorem Legible.settled {rs : List Run} (h : Legible rs) : Settled rs := by
  match rs, h with
  | [], _ => exact .nil
  | ⟨t, true⟩ :: rs, h =>
    exact .strong (h.filled _ List.mem_cons_self) (h.strong _ List.mem_cons_self rfl) h.tail.settled
  | [⟨t, false⟩], h =>
    refine .last (h.filled _ List.mem_cons_self) ?_
    rintro ⟨front, rest, ht, -⟩
    exact h.plain _ List.mem_cons_self rfl ⟨front, rest, by simpa using ht.symm⟩
  | ⟨t, false⟩ :: ⟨u, false⟩ :: rs, h =>
    have hapart := (List.isChain_cons_cons.1 h.apart).1
    simp at hapart
  | ⟨t, false⟩ :: ⟨u, true⟩ :: rs, h =>
    have hlast := (List.isChain_cons_cons.1 h.before).1 rfl rfl
    have hu := h.tail
    exact .plain (h.filled _ List.mem_cons_self) ⟨h.plain _ List.mem_cons_self rfl, hlast⟩
      (hu.filled _ List.mem_cons_self) (hu.strong _ List.mem_cons_self rfl) hu.tail.settled

theorem legible_runs_read_back {rs : List Run} (hline : ∀ r ∈ rs, '\n' ∉ r.text.toList)
    (h : Legible rs) : runs (markup rs) = rs := by
  have hmarkup : '\n' ∉ (markup rs).toList := by
    rw [toList_markup, List.mem_flatMap]
    rintro ⟨r, hr, hmem⟩
    have htext := hline r hr
    rw [written] at hmem
    split at hmem <;> simp_all
  exact (runs_markup_iff hmarkup).2 h.settled

theorem touching_runs_read_back :
    let rs : List Run := [.strong "*a", .strong "b", .plain "*c", .strong "d", .plain "e*"]
    (∀ r ∈ rs, '\n' ∉ r.text.toList) ∧ Legible rs ∧ markup rs = "***a****b***c**d**e*" ∧
      runs (markup rs) = rs := by
  intro rs
  have hline : ∀ r ∈ rs, '\n' ∉ r.text.toList := by decide
  have hlegible : Legible rs := by
    refine ⟨by decide, by decide, ?_, by decide, by decide⟩
    simp only [Closed]
    decide
  exact ⟨hline, hlegible, by decide, legible_runs_read_back hline hlegible⟩

end SlideDeck.Markup
