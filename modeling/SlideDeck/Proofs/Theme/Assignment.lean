import Mathlib.Data.List.Induction
import SlideDeck.Proofs.Theme.Latest
import SlideDeck.Theme.Registry

/-! Which theme id a slide has after any history of changes. What the latest change to the slide's own
id says counts more than the id of the deck, which is the one that the deck was given last. -/

namespace SlideDeck.Assignment

theorem foldl_set (named : List (Nat × String)) (a : Assignment) :
    named.foldl (fun a e => a.set e.1 e.2) a =
      ⟨a.deck, named.foldl (fun m e => m.insert e.1 e.2) a.slides⟩ := by
  induction named generalizing a with
  | nil => rfl
  | cons e named ih => rw [List.foldl_cons, ih, List.foldl_cons, set]

theorem getElem?_foldl_set (named : List (Nat × String)) (a : Assignment) (i : Nat) :
    (named.foldl (fun a e => a.set e.1 e.2) a).slides[i]? =
      (latest? named i).or a.slides[i]? := by
  rw [foldl_set, getElem?_foldl_insert]

theorem eq_of_slides {a a' : Assignment} (hdeck : a.deck = a'.deck)
    (h : ∀ i : Nat, a.slides[i]? = a'.slides[i]?) : a = a' := by
  obtain ⟨deck, slides⟩ := a
  obtain ⟨deck', slides'⟩ := a'
  obtain rfl : deck = deck' := hdeck
  have hslides : slides = slides' := Std.ExtTreeMap.ext_getElem? h
  rw [hslides]

/-! ## One change -/

inductive Change
  | apply (id : String) (selected : List Nat)
  | clear (slide : Nat)
deriving DecidableEq, Repr

namespace Change

def act (a : Assignment) : Change → Assignment
  | apply id selected => a.apply id selected
  | clear slide => a.clear slide

/-- What a change says about a slide's own id, if it says anything: the id, or that it has none. -/
def own? (slide : Nat) : Change → Option (Option String)
  | apply id selected => if slide ∈ selected then some (some id) else none
  | clear cleared => if cleared = slide then some none else none

def deck? : Change → Option String
  | apply id [] => some id
  | _ => none

end Change

section

variable (a : Assignment) (slide : Nat)

theorem latest?_selected (id : String) (selected : List Nat) :
    latest? (selected.map (·, id)) slide = if slide ∈ selected then some id else none := by
  induction selected with
  | nil => rfl
  | cons first rest ih =>
    rw [List.map_cons, latest?_cons, ih]
    by_cases hrest : slide ∈ rest
    · simp [hrest]
    · simp [hrest, eq_comm]

theorem apply_cons (id : String) (first : Nat) (rest : List Nat) :
    a.apply id (first :: rest) =
      ((first :: rest).map (·, id)).foldl (fun a e => a.set e.1 e.2) a := by
  rw [List.foldl_map]
  rfl

theorem slides_act (c : Change) : (c.act a).slides[slide]? = (c.own? slide).getD a.slides[slide]? := by
  cases c with
  | apply id selected =>
    cases selected with
    | nil => rfl
    | cons first rest =>
      have happly : (Change.act a (.apply id (first :: rest))).slides[slide]? =
          (latest? ((first :: rest).map (·, id)) slide).or a.slides[slide]? := by
        rw [← getElem?_foldl_set, ← apply_cons, Change.act]
      rw [happly, latest?_selected, Change.own?]
      split <;> rfl
  | clear cleared =>
    have hclear : (Change.act a (.clear cleared)).slides[slide]? =
        if cleared = slide then none else a.slides[slide]? := by
      simp only [Change.act, clear, Std.ExtTreeMap.getElem?_erase, Std.compare_eq_iff_eq]
    rw [hclear, Change.own?]
    split <;> rfl

theorem deck_act (c : Change) : (c.act a).deck = c.deck?.getD a.deck := by
  cases c with
  | apply id selected =>
    cases selected with
    | nil => rfl
    | cons first rest =>
      rw [Change.act, apply_cons, foldl_set]
      rfl
  | clear cleared => rfl

end

/-! ## Histories -/

theorem view_foldl {σ ε β : Type} {step : σ → ε → σ} {v : σ → β} {say : ε → Option β}
    (hstep : ∀ s e, v (step s e) = (say e).getD (v s)) (s : σ) (history : List ε) :
    v (history.foldl step s) = (history.reverse.findSome? say).getD (v s) := by
  induction history using List.reverseRecOn with
  | nil => rfl
  | append_singleton history e ih =>
    rw [List.foldl_append, List.foldl_cons, List.foldl_nil, hstep, ih, List.reverse_concat,
      List.findSome?_cons]
    cases say e <;> rfl

/-- After any history the id of a slide is what the latest change that selects or clears the slide
says of it, or its own id from before; if it has none then, it is the id that the deck was given
last, or that of the deck from before. -/
theorem latest_change_counts (a : Assignment) (history : List Change) (slide : Nat) :
    (history.foldl Change.act a).idFor slide =
      ((history.reverse.findSome? (Change.own? slide)).getD a.slides[slide]?).getD
        ((history.reverse.findSome? Change.deck?).getD a.deck) := by
  have hslides : (history.foldl Change.act a).slides[slide]? =
      (history.reverse.findSome? (Change.own? slide)).getD a.slides[slide]? :=
    view_foldl (v := fun a => a.slides[slide]?) (slides_act · slide) a history
  have hdeck := view_foldl deck_act a history
  rw [idFor, hslides, hdeck]

end SlideDeck.Assignment
