import SlideDeck.Document

/-! Bold text in a line. A pair of double asterisks on one line makes the text between them
bold; the pairs are taken from the left, each as short as it can be. An asterisk outside a
pair is text, and a pair around nothing leaves nothing. -/

namespace SlideDeck.Markup

def untilStars : List Char → Option (List Char × List Char)
  | '*' :: '*' :: rest => some ([], rest)
  | [] => none
  | c :: rest =>
    if c = '\n' then none else (untilStars rest).map fun (inner, after) => (c :: inner, after)

theorem length_of_untilStars {cs inner after : List Char} (h : untilStars cs = some (inner, after)) :
    after.length + 2 ≤ cs.length := by
  fun_induction untilStars cs generalizing inner with
  | case1 rest => simp_all
  | case2 => simp at h
  | case3 => simp at h
  | case4 c rest _ _ ih =>
    obtain ⟨⟨i, a⟩, hi, he⟩ := Option.map_eq_some_iff.1 h
    obtain ⟨rfl, rfl⟩ : c :: i = inner ∧ a = after := by simpa using he
    have := ih hi
    simp only [List.length_cons]
    omega

def plainRun (collected : List Char) : List Run :=
  if collected.isEmpty then [] else [.plain (.ofList collected.reverse)]

def strongRun (inner : List Char) : List Run :=
  if inner.isEmpty then [] else [.strong (.ofList inner)]

def runsFrom (collected : List Char) (cs : List Char) : List Run :=
  match cs with
  | [] => plainRun collected
  | '*' :: '*' :: rest =>
    match _h : untilStars rest with
    | some (inner, after) => plainRun collected ++ (strongRun inner ++ runsFrom [] after)
    | none => runsFrom ('*' :: collected) ('*' :: rest)
  | c :: rest => runsFrom (c :: collected) rest
termination_by cs.length
decreasing_by
  · have := length_of_untilStars _h
    simp only [List.length_cons]
    omega
  · simp
  · simp

def runs (line : String) : List Run := runsFrom [] line.toList

end SlideDeck.Markup
