import Mathlib.Data.List.Nodup
import SlideDeck.Proofs.Reading.Fields

/-! Records with members that are all known. What each field gives is read from its own member, in
whatever order the members stand. -/

namespace SlideDeck.Reading

variable {τ α β ε : Type}

theorem forM_eq_ok {xs : List α} {f : α → Placed Unit} (h : ∀ x ∈ xs, f x = .ok ()) :
    xs.forM f = .ok () := by
  induction xs with
  | nil => rfl
  | cons x xs ih =>
    rw [List.forM_eq_forM, List.forM_cons, h x List.mem_cons_self]
    exact ih fun x hx => h x (List.mem_cons_of_mem _ hx)

theorem exists_mapM_of_perm {read : α → Except ε β} {write : β → α} {xs : List α} {ys : List β}
    (hread : ∀ y ∈ ys, read (write y) = .ok y) (hperm : (ys.map write).Perm xs) :
    ∃ ys', xs.mapM read = .ok ys' ∧ ys.Perm ys' := by
  have hall : ∀ x ∈ xs, ∃ y, read x = .ok y := by
    intro x hx
    obtain ⟨y, hy, rfl⟩ := List.mem_map.1 (hperm.mem_iff.2 hx)
    exact ⟨y, hread y hy⟩
  have hback : (ys.map write).filterMap (fun x => (read x).toOption) = ys := by
    have hsome : ∀ y ∈ ys, (read (write y)).toOption = some y := fun y hy => by
      rw [hread y hy, Except.toOption]
    rw [List.filterMap_map]
    exact (List.filterMap_congr hsome).trans List.filterMap_some
  refine ⟨_, mapM_eq_ok_iff.2 ⟨hall, rfl⟩, ?_⟩
  have hread := hperm.filterMap fun x => (read x).toOption
  rwa [hback] at hread

def Form.ofNamed (ms : List (String × τ)) : Form τ := .members (ms.map fun m => (.ok m.1, m.2))

namespace Fields

def Gives (fs : Fields τ α) (form : Form τ) (a : α) : Prop := ∀ first, fs.read first form = .ok a

variable {form : Form τ}

theorem Gives.map {fs : Fields τ α} {a : α} (h : fs.Gives form a) (g : α → β) :
    (g <$> fs).Gives form (g a) := fun first => map_eq_ok_iff.2 ⟨a, h first, rfl⟩

theorem Gives.seq {fs : Fields τ (α → β)} {x : Fields τ α} {g : α → β} {a : α}
    (hg : fs.Gives form g) (ha : x.Gives form a) : (fs <*> x).Gives form (g a) := fun first =>
  Placed.both_eq_ok_iff.2 ⟨g, a, hg first, ha _, rfl⟩

section Named

variable {ms : List (String × τ)} {name : String}

theorem named_eq_nil (h : name ∉ ms.map Prod.fst) (place : Nat) :
    ((ms.map fun m => ((.ok m.1, m.2) : Except Misfit String × τ)).zipIdx place).filter
      (fun m => isNamed name m.1) = [] := by
  refine List.filter_eq_nil_iff.2 fun m hm => ?_
  obtain ⟨n, hn, hmember⟩ := List.mem_map.1 (List.fst_mem_of_mem_zipIdx hm)
  have hne : n.1 ≠ name := fun heq => h (heq ▸ List.mem_map_of_mem hn)
  simp [← hmember, isNamed, hne]

theorem gives_field {v : τ} (hkeys : (ms.map Prod.fst).Nodup) (hmem : (name, v) ∈ ms)
    {r : Reader τ α} {a : α} (hread : r v = .ok a) (absence : Absence α) :
    (field name r absence).Gives (.ofNamed ms) a := by
  obtain ⟨before, behind, rfl⟩ := List.append_of_mem hmem
  have hsplit : name ∉ before.map Prod.fst ∧ name ∉ behind.map Prod.fst := by
    rw [List.map_append, List.map_cons, List.nodup_middle, List.nodup_cons] at hkeys
    simpa using hkeys.1
  intro first
  simp only [Form.ofNamed, List.map_append, List.map_cons, field, named_replaced,
    named_eq_nil hsplit.1, named_eq_nil hsplit.2]
  exact Placed.mark_eq_ok_iff.2 hread

theorem gives_absent (h : name ∉ ms.map Prod.fst) (r : Reader τ α) (a : α) :
    (field name r (.optional a)).Gives (.ofNamed ms) a := by
  intro first
  simp only [Form.ofNamed, field, named_eq_nil h]

variable [Source τ]

theorem passOthers_eq_ok {names : List String} (h : ∀ m ∈ ms, m.1 ∈ names) :
    passOthers names (ms.map fun m => (.ok m.1, m.2)) = .ok () := by
  refine forM_eq_ok fun m hm => ?_
  obtain ⟨n, hn, hmember⟩ := List.mem_map.1 (List.fst_mem_of_mem_zipIdx hm)
  rw [← hmember]
  simp [bind, Except.bind, h n hn, Placed.mark]

theorem ofMembers_of_gives {fs : Fields τ α} {a : α} (h : fs.Gives (.ofNamed ms) a)
    (hnames : ∀ m ∈ ms, m.1 ∈ fs.names) :
    fs.ofMembers (ms.map fun m => (.ok m.1, m.2)) = .ok a :=
  ofMembers_eq_ok_iff.2 ⟨h 0, passOthers_eq_ok hnames⟩

end Named

end Fields

end SlideDeck.Reading
