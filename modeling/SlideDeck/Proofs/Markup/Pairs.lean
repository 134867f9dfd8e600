import Mathlib.Data.List.Infix
import SlideDeck.Markup.Bold

/-! Pairs of two asterisks, and how reading gets past them. The first two asterisks of a text open a
pair, the next two close it, and reading goes on behind these as if the text began there. -/

namespace SlideDeck.Markup

def stars : List Char := ['*', '*']

/-- No two asterisks stand together in the text, nor does it end in one: of the text and two asterisks
behind it, these are the first two together. -/
def Closed (t : List Char) : Prop := ¬ stars <:+: t ∧ t.getLast? ≠ some '*'

/-- Two asterisks stand together, and two again behind them. -/
def HasPair (t : List Char) : Prop := ∃ before rest, t = before ++ (stars ++ rest) ∧ stars <:+: rest

section Stars

variable {c : Char} {cs t before inner after rest : List Char}

theorem closed_iff : Closed t ↔ ¬ stars <:+: t ++ ['*'] := by
  have hlast : stars <:+ t ++ ['*'] ↔ t.getLast? = some '*' := by
    have hstars : stars = ['*'] ++ ['*'] := rfl
    rw [hstars, List.suffix_append_inj_of_length_eq rfl, List.singleton_suffix_iff_getLast?_eq_some]
    exact and_iff_left rfl
  rw [List.infix_concat_iff, hlast, Closed]
  tauto

theorem closed_nil : Closed [] := by
  simp [Closed, stars]

theorem closed_cons : Closed (c :: t) ↔ ¬ stars <+: c :: (t ++ ['*']) ∧ Closed t := by
  rw [closed_iff, closed_iff, List.cons_append, List.infix_cons_iff, not_or]

theorem stars_prefix_cons : stars <+: c :: rest ↔ c = '*' ∧ ∃ rest', rest = '*' :: rest' := by
  cases rest <;> simp [stars, List.cons_prefix_cons, eq_comm]

theorem prefix_append_stars (c : Char) (t after : List Char) :
    stars <+: c :: (t ++ (stars ++ after)) ↔ stars <+: c :: (t ++ ['*']) := by
  cases t <;> simp [stars, List.cons_prefix_cons]

theorem exists_closed (h : stars <:+: cs) : ∃ t after, cs = t ++ (stars ++ after) ∧ Closed t := by
  induction cs with
  | nil => simp [stars] at h
  | cons c cs ih =>
    by_cases hopen : stars <+: c :: cs
    · obtain ⟨after, hafter⟩ := hopen
      exact ⟨[], after, hafter.symm, closed_nil⟩
    · obtain ⟨t, after, rfl, ht⟩ := ih ((List.infix_cons_iff.1 h).resolve_left hopen)
      rw [prefix_append_stars] at hopen
      exact ⟨c :: t, after, rfl, closed_cons.2 ⟨hopen, ht⟩⟩

/-! ## Pairs -/

theorem HasPair.cons (h : HasPair t) (c : Char) : HasPair (c :: t) := by
  obtain ⟨before, rest, rfl, hrest⟩ := h
  exact ⟨c :: before, rest, rfl, hrest⟩

theorem HasPair.behind (h : HasPair (t ++ (stars ++ rest))) (ht : Closed t) : stars <:+: rest := by
  obtain ⟨before, rest', heq, hrest'⟩ := h
  induction t generalizing before with
  | nil =>
    -- The second two asterisks stand behind any two before them, so also behind the first two.
    have hall : rest' <:+ stars ++ rest := ⟨before ++ stars, by simpa using heq.symm⟩
    have hsuffix : rest' <:+ rest := by
      have hlength := congrArg List.length heq
      simp only [List.nil_append, List.length_append] at hlength
      exact List.suffix_of_suffix_length_le hall (List.suffix_append stars rest) (by omega)
    exact hrest'.trans hsuffix.isInfix
  | cons c t ih =>
    obtain ⟨hc, ht⟩ := closed_cons.1 ht
    cases before with
    | nil =>
      rw [← prefix_append_stars c t rest] at hc
      exact absurd ⟨rest', heq.symm⟩ hc
    | cons d before => exact ih ht before (List.cons.inj heq).2

theorem HasPair.first (h : HasPair cs) : ∃ before inner after,
    cs = before ++ (stars ++ (inner ++ (stars ++ after))) ∧ Closed before ∧ Closed inner := by
  have hstars : stars <:+: cs := by
    obtain ⟨before, rest, rfl, -⟩ := h
    exact ⟨before, rest, by simp⟩
  obtain ⟨before, rest, rfl, hbefore⟩ := exists_closed hstars
  obtain ⟨inner, after, rfl, hinner⟩ := exists_closed (h.behind hbefore)
  exact ⟨before, inner, after, rfl, hbefore, hinner⟩

/-! ## Reading -/

theorem untilStars_cons (h : ¬ stars <+: c :: rest) (hc : c ≠ '\n') :
    untilStars (c :: rest) = (untilStars rest).map fun (inner, after) => (c :: inner, after) := by
  rw [untilStars, if_neg hc]
  rintro rest' rfl rfl
  exact h (stars_prefix_cons.2 ⟨rfl, rest', rfl⟩)

theorem untilStars_append (ht : Closed t) (hline : '\n' ∉ t) (after : List Char) :
    untilStars (t ++ (stars ++ after)) = some (t, after) := by
  induction t with
  | nil => rfl
  | cons c t ih =>
    obtain ⟨hc, ht⟩ := closed_cons.1 ht
    obtain ⟨hne, hline⟩ : '\n' ≠ c ∧ '\n' ∉ t := by simpa using hline
    rw [List.cons_append, untilStars_cons (by rwa [prefix_append_stars]) hne.symm, ih ht hline,
      Option.map_some]

theorem untilStars_eq_none (h : ¬ stars <:+: cs) : untilStars cs = none := by
  fun_induction untilStars cs with
  | case1 rest => exact absurd ⟨[], rest, rfl⟩ h
  | case2 => rfl
  | case3 => rfl
  | case4 c rest _ _ ih =>
    rw [ih fun hrest => h (List.infix_cons hrest), Option.map_none]

theorem runsFrom_cons (h : ¬ stars <+: c :: rest) (collected : List Char) :
    runsFrom collected (c :: rest) = runsFrom (c :: collected) rest := by
  rw [runsFrom]
  rintro rest' rfl rfl
  exact h (stars_prefix_cons.2 ⟨rfl, rest', rfl⟩)

theorem runsFrom_append (ht : Closed t) (collected rest : List Char) :
    runsFrom collected (t ++ (stars ++ rest)) = runsFrom (t.reverse ++ collected) (stars ++ rest) := by
  induction t generalizing collected with
  | nil => rfl
  | cons c t ih =>
    obtain ⟨hc, ht⟩ := closed_cons.1 ht
    rw [List.cons_append, runsFrom_cons (by rwa [prefix_append_stars]), ih ht]
    simp

theorem runsFrom_of_some (h : untilStars rest = some (inner, after)) (collected : List Char) :
    runsFrom collected (stars ++ rest) =
      plainRun collected ++ (strongRun inner ++ runsFrom [] after) := by
  rw [stars, List.cons_append, List.singleton_append, runsFrom]
  split
  next hsome =>
    obtain ⟨rfl, rfl⟩ : inner = _ ∧ after = _ := by simpa [h] using hsome
    rfl
  next hnone => simp [h] at hnone

theorem runsFrom_of_none (h : untilStars rest = none) (collected : List Char) :
    runsFrom collected (stars ++ rest) = runsFrom ('*' :: collected) ('*' :: rest) := by
  rw [stars, List.cons_append, List.singleton_append, runsFrom]
  split
  next hsome => simp [h] at hsome
  next => rfl

theorem runsFrom_pair (hbefore : Closed before) (hinner : Closed inner) (hline : '\n' ∉ inner)
    (after : List Char) : runsFrom [] (before ++ (stars ++ (inner ++ (stars ++ after)))) =
      plainRun before.reverse ++ (strongRun inner ++ runsFrom [] after) := by
  rw [runsFrom_append hbefore, runsFrom_of_some (untilStars_append hinner hline after),
    List.append_nil]

theorem runsFrom_of_not_hasPair (h : ¬ HasPair cs) (collected : List Char) :
    runsFrom collected cs = plainRun (cs.reverse ++ collected) := by
  induction cs generalizing collected with
  | nil => rw [runsFrom]; rfl
  | cons c cs ih =>
    have hrest : runsFrom (c :: collected) cs = plainRun ((c :: cs).reverse ++ collected) := by
      rw [ih fun hpair => h (hpair.cons c)]
      simp
    by_cases hopen : stars <+: c :: cs
    · obtain ⟨rfl, rest, rfl⟩ := stars_prefix_cons.1 hopen
      have hnone : untilStars rest = none :=
        untilStars_eq_none fun hstars => h ⟨[], rest, rfl, hstars⟩
      rw [← hrest]
      exact runsFrom_of_none hnone collected
    · rw [runsFrom_cons hopen, hrest]

end Stars

end SlideDeck.Markup
