import Std.Data.ExtTreeMap

/-! Maps that are filled entry by entry. Under a key stands the latest entry that has it. -/

namespace SlideDeck

section

variable {κ β : Type} [DecidableEq κ]

def latest? (entries : List (κ × β)) (key : κ) : Option β :=
  ((entries.filter fun e => e.1 = key).getLast?).map Prod.snd

theorem latest?_append (before behind : List (κ × β)) (key : κ) :
    latest? (before ++ behind) key = (latest? behind key).or (latest? before key) := by
  rw [latest?, List.filter_append, List.getLast?_append, Option.map_or, latest?, latest?]

theorem latest?_singleton (e : κ × β) (key : κ) :
    latest? [e] key = if e.1 = key then some e.2 else none := by
  by_cases h : e.1 = key <;> simp [latest?, h]

theorem latest?_cons (e : κ × β) (entries : List (κ × β)) (key : κ) :
    latest? (e :: entries) key =
      (latest? entries key).or (if e.1 = key then some e.2 else none) := by
  rw [← List.singleton_append, latest?_append, latest?_singleton]

theorem latest?_eq_none_iff {entries : List (κ × β)} {key : κ} :
    latest? entries key = none ↔ ∀ e ∈ entries, e.1 ≠ key := by
  simp [latest?]

theorem mem_of_latest? {entries : List (κ × β)} {key : κ} {b : β}
    (h : latest? entries key = some b) : (key, b) ∈ entries := by
  obtain ⟨e, he, rfl⟩ := Option.map_eq_some_iff.1 h
  obtain ⟨hmem, hkey⟩ := List.mem_filter.1 (List.mem_of_getLast? he)
  obtain rfl : e.1 = key := of_decide_eq_true hkey
  exact hmem

theorem exists_latest?_iff {entries : List (κ × β)} {key : κ} :
    (∃ b, latest? entries key = some b) ↔ key ∈ entries.map Prod.fst := by
  rw [← Option.isSome_iff_exists, Option.isSome_iff_ne_none, Ne, latest?_eq_none_iff]
  simp

/-- The same items in another order, in which those of one key stand as they did. -/
def Shuffled {α : Type} (key : α → κ) (xs ys : List α) : Prop :=
  xs.Perm ys ∧ ∀ k, xs.filter (fun x => key x = k) = ys.filter fun x => key x = k

theorem Shuffled.congr {α : Type} {key key' : α → κ} {xs ys : List α} (h : Shuffled key xs ys)
    (hkey : ∀ x ∈ xs, key' x = key x) : Shuffled key' xs ys := by
  refine ⟨h.1, fun k => ?_⟩
  have hxs : xs.filter (fun x => key' x = k) = xs.filter fun x => key x = k :=
    List.filter_congr fun x hx => by rw [hkey x hx]
  have hys : ys.filter (fun x => key' x = k) = ys.filter fun x => key x = k :=
    List.filter_congr fun x hx => by rw [hkey x (h.1.mem_iff.2 hx)]
  rw [hxs, hys, h.2]

theorem Shuffled.latest?_eq {entries entries' : List (κ × β)}
    (h : Shuffled Prod.fst entries entries') (key : κ) :
    latest? entries key = latest? entries' key := by
  rw [latest?, h.2, latest?]

theorem Shuffled.filterMap {α : Type} {key : β → κ} {f : α → Option β} {xs ys : List α}
    (h : Shuffled (fun x => (f x).map key) xs ys) :
    Shuffled key (xs.filterMap f) (ys.filterMap f) := by
  have hfilter (xs : List α) (k : κ) : (xs.filterMap f).filter (fun b => key b = k) =
      (xs.filter fun x => (f x).map key = some k).filterMap f := by
    rw [List.filter_filterMap, List.filterMap_filter]
    congr 1
    funext x
    cases f x <;> simp [Option.filter]
  exact ⟨h.1.filterMap f, fun k => by rw [hfilter, hfilter, h.2]⟩

theorem shuffled_of_perm {α : Type} {key : α → κ} {xs ys : List α} (h : xs.Perm ys)
    (hkeys : (xs.map key).Nodup) : Shuffled key xs ys := by
  refine ⟨h, fun k => ?_⟩
  induction h with
  | nil => rfl
  | cons x _ ih =>
    rw [List.filter_cons, List.filter_cons, ih (List.nodup_cons.1 hkeys).2]
  | swap x y xs =>
    have hne : key y ≠ key x := fun h => (List.nodup_cons.1 hkeys).1 (h ▸ List.mem_cons_self)
    by_cases hx : key x = k
    · have hy : key y ≠ k := fun hy => hne (hy.trans hx.symm)
      simp [hx, hy]
    · simp [List.filter_cons, hx]
  | trans h _ ih ih' => exact (ih hkeys).trans (ih' ((h.map key).nodup_iff.1 hkeys))

variable [Ord κ] [Std.TransOrd κ] [Std.LawfulEqOrd κ]

theorem getElem?_foldl_insert (entries : List (κ × β)) (m : Std.ExtTreeMap κ β) (key : κ) :
    (entries.foldl (fun m e => m.insert e.1 e.2) m)[key]? = (latest? entries key).or m[key]? := by
  induction entries generalizing m with
  | nil => rfl
  | cons e entries ih =>
    rw [List.foldl_cons, ih, latest?_cons, Option.or_assoc, Std.ExtTreeMap.getElem?_insert]
    by_cases h : e.1 = key <;> simp [h]

theorem latest?_eq_getElem? {entries : List (κ × β)} {m : Std.ExtTreeMap κ β}
    (h : ∀ e, e ∈ entries ↔ e ∈ m.toList) (key : κ) : latest? entries key = m[key]? := by
  cases hlatest : latest? entries key with
  | none =>
    have hnone := latest?_eq_none_iff.1 hlatest
    refine (Option.eq_none_iff_forall_ne_some.2 fun b hb => ?_).symm
    exact hnone _ ((h (key, b)).2 (Std.ExtTreeMap.mem_toList_iff_getElem?_eq_some.2 hb)) rfl
  | some b =>
    exact (Std.ExtTreeMap.mem_toList_iff_getElem?_eq_some.1 ((h _).1 (mem_of_latest? hlatest))).symm

end

end SlideDeck
