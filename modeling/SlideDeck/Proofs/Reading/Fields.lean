import SlideDeck.Reading.Fields

/-! Records of which one value is replaced. The field that it belongs to is read from the new value,
and the other fields are read as before. -/

namespace SlideDeck.Reading

variable {τ α β ε : Type}

theorem map_eq_ok_iff {f : α → β} {r : Except ε α} {b : β} :
    r.map f = .ok b ↔ ∃ a, r = .ok a ∧ f a = b := by
  cases r <;> simp [Except.map]

theorem mapM_eq_ok_iff {read : α → Except ε β} {xs : List α} {ys : List β} :
    xs.mapM read = .ok ys ↔
      (∀ x ∈ xs, ∃ y, read x = .ok y) ∧ ys = xs.filterMap fun x => (read x).toOption := by
  induction xs generalizing ys with
  | nil => simp [pure, Except.pure, eq_comm]
  | cons x xs ih =>
    rw [List.mapM_cons, List.forall_mem_cons]
    cases hx : read x with
    | error e => simp [bind, Except.bind]
    | ok y =>
      have hread : ((x :: xs).filterMap fun x => (read x).toOption) =
          y :: xs.filterMap fun x => (read x).toOption :=
        List.filterMap_cons_some (by rw [hx, Except.toOption])
      rw [hread]
      cases hxs : xs.mapM read with
      | error e =>
        have hnot : ¬ ∀ x ∈ xs, ∃ y, read x = .ok y := fun h => by
          have hok := ih.2 ⟨h, rfl⟩
          rw [hxs] at hok
          cases hok
        simp [bind, Except.bind, hnot]
      | ok zs =>
        obtain ⟨hall, rfl⟩ := ih.1 hxs
        simp only [bind, Except.bind, pure, Except.pure, Except.ok.injEq]
        exact ⟨fun h => ⟨⟨⟨y, rfl⟩, hall⟩, h.symm⟩, fun h => h.2.symm⟩

inductive Form.Replaced (name : String) (place : Nat) (v v' : τ) : Form τ → Form τ → Prop
  | members (before behind : List (Except Misfit String × τ)) :
      Replaced name place v v' (.members (before ++ (.ok name, v) :: behind))
        (.members (before ++ (.ok name, v') :: behind))
  | items (before behind : List τ) (size : String) (hplace : before.length = place) :
      Replaced name place v v' (.items (before ++ v :: behind) size)
        (.items (before ++ v' :: behind) size)

theorem Placed.both_eq_ok_iff {f : Placed (α → β)} {x : Placed α} {b : β} :
    Placed.both f x = .ok b ↔ ∃ g a, f = .ok g ∧ x = .ok a ∧ g a = b := by
  cases f <;> cases x <;> simp [Placed.both]

theorem Placed.mark_eq_ok_iff {place : Nat} {r : Except Misfit α} {a : α} :
    Placed.mark place r = .ok a ↔ r = .ok a := by
  cases r <;> simp [Placed.mark]

namespace Fields

section

variable {name : String} {place : Nat} {v v' : τ} {form form' : Form τ}

theorem named_replaced (before behind : List (Except Misfit String × τ)) :
    (before ++ (.ok name, v) :: behind).zipIdx.filter (fun m => isNamed name m.1) =
      before.zipIdx.filter (fun m => isNamed name m.1) ++ ((.ok name, v), before.length) ::
        (behind.zipIdx (before.length + 1)).filter fun m => isNamed name m.1 := by
  rw [List.zipIdx_append, List.zipIdx_cons, List.filter_append,
    List.filter_cons_of_pos (by simp [isNamed])]
  simp

theorem read_field_of_ne (h : Form.Replaced name place v v' form form') {other : String}
    (hname : other ≠ name) {first : Nat} (hplace : first ≠ place) (r : Reader τ α)
    (absence : Absence α) :
    (field other r absence).read first form = (field other r absence).read first form' := by
  cases h with
  | members before behind =>
    have hnamed (v : τ) : isNamed other (.ok name, v) = false := by
      simp [isNamed, hname.symm]
    have hfilter (v : τ) :
        (before ++ (.ok name, v) :: behind).zipIdx.filter (fun m => isNamed other m.1) =
          before.zipIdx.filter (fun m => isNamed other m.1) ++
            (behind.zipIdx (before.length + 1)).filter fun m => isNamed other m.1 := by
      rw [List.zipIdx_append, List.zipIdx_cons, List.filter_append,
        List.filter_cons_of_neg (by simp [hnamed])]
      simp
    simp only [field, hfilter, List.length_append, List.length_cons]
  | items before behind size hlength =>
    have hsame : (before ++ v :: behind)[first]? = (before ++ v' :: behind)[first]? := by
      grind
    simp only [field, hsame]

theorem read_field_replaced (h : Form.Replaced name place v v' form form') {r : Reader τ α}
    {absence : Absence α} {a : α} (ha : (field name r absence).read place form = .ok a) :
    r v = .ok a ∧ ∀ a', r v' = .ok a' → (field name r absence).read place form' = .ok a' := by
  cases h with
  | members before behind =>
    simp only [field, named_replaced] at ha ⊢
    -- A second member of this name would be one too many.
    cases hbefore : before.zipIdx.filter fun m => isNamed name m.1 with
    | cons m ms =>
      rw [hbefore] at ha
      cases ms <;> cases hm : r m.1.2 <;> simp [hm] at ha
    | nil =>
      rw [hbefore] at ha
      cases hbehind : (behind.zipIdx (before.length + 1)).filter fun m => isNamed name m.1 with
      | cons m ms =>
        rw [hbehind] at ha
        cases hv : r v <;> simp [hv] at ha
      | nil =>
        rw [hbehind] at ha
        exact ⟨Placed.mark_eq_ok_iff.1 ha, fun a' => Placed.mark_eq_ok_iff.2⟩
  | items before behind size hplace =>
    have hat (v : τ) : (before ++ v :: behind)[place]? = some v := by
      simp [← hplace]
    simp only [field, hat] at ha ⊢
    exact ⟨Placed.mark_eq_ok_iff.1 ha, fun a' => Placed.mark_eq_ok_iff.2⟩

end

/-- What can be read from the one form can be read from the other too, with a result that goes
with the first. -/
def Follows (R : α → α → Prop) (first : Nat) (form form' : Form τ) (x : Fields τ α) : Prop :=
  ∀ a, x.read first form = .ok a → ∃ a', x.read first form' = .ok a' ∧ R a a'

variable {first : Nat} {form form' : Form τ}

theorem follows_of_eq {x : Fields τ α} (h : x.read first form = x.read first form') :
    x.Follows Eq first form form' := fun a ha => ⟨a, h ▸ ha, rfl⟩

theorem Follows.map {R : α → α → Prop} {S : β → β → Prop} {x : Fields τ α} {g : α → β}
    (hx : x.Follows R first form form') (hg : ∀ a a', R a a' → S (g a) (g a')) :
    (g <$> x).Follows S first form form' := by
  intro b hb
  obtain ⟨a, ha, rfl⟩ := map_eq_ok_iff.1 hb
  obtain ⟨a', ha', hR⟩ := hx a ha
  exact ⟨g a', map_eq_ok_iff.2 ⟨a', ha', rfl⟩, hg a a' hR⟩

theorem Follows.seq {R : α → α → Prop} {S : β → β → Prop} {f : Fields τ (α → β)} {x : Fields τ α}
    (hf : f.Follows (fun g g' => ∀ a a', R a a' → S (g a) (g' a')) first form form')
    (hx : x.Follows R (first + f.names.length) form form') :
    (f <*> x).Follows S first form form' := by
  intro b hb
  obtain ⟨g, a, hg, ha, rfl⟩ := Placed.both_eq_ok_iff.1 hb
  obtain ⟨g', hg', hgg⟩ := hf g hg
  obtain ⟨a', ha', haa⟩ := hx a ha
  exact ⟨g' a', Placed.both_eq_ok_iff.2 ⟨g', a', hg', ha', rfl⟩, hgg a a' haa⟩

theorem Follows.seq_eq {S : β → β → Prop} {f : Fields τ (α → β)} {x : Fields τ α}
    (hf : f.Follows (fun g g' => ∀ a, S (g a) (g' a)) first form form')
    (hx : x.read (first + f.names.length) form = x.read (first + f.names.length) form') :
    (f <*> x).Follows S first form form' := by
  refine Follows.seq (R := Eq) ?_ (follows_of_eq hx)
  intro g hg
  obtain ⟨g', hg', hgg⟩ := hf g hg
  exact ⟨g', hg', fun a a' haa => haa ▸ hgg a⟩

variable [Source τ]

theorem passOthers_replaced {names : List String} {name : String} (h : name ∈ names)
    (before behind : List (Except Misfit String × τ)) (v v' : τ) :
    passOthers names (before ++ (.ok name, v) :: behind) =
      passOthers names (before ++ (.ok name, v') :: behind) := by
  have hfield (v : τ) : (do if names.contains (← Except.ok (ε := Misfit) name) then .ok () else
      Source.pass v : Except Misfit Unit) = .ok () := by
    simp [bind, Except.bind, h]
  simp only [passOthers, List.zipIdx_append, List.zipIdx_cons, List.forM_eq_forM,
    List.forM_append, List.forM_cons, hfield]

theorem ofMembers_eq_ok_iff {fs : Fields τ α} {ms : List (Except Misfit String × τ)} {a : α} :
    fs.ofMembers ms = .ok a ↔
      fs.read 0 (.members ms) = .ok a ∧ passOthers fs.names ms = .ok () := by
  rw [ofMembers]
  cases fs.read 0 (.members ms) <;> cases passOthers fs.names ms <;>
    simp [Placed.both, Placed.unplaced, Except.map]

theorem ofItems_eq_ok_iff {fs : Fields τ α} {what : String} {vs : List τ} {a : α} :
    fs.ofItems what vs = .ok a ↔
      fs.read 0 (.items vs (sizeText what fs.names.length)) = .ok a ∧
        finish τ fs.names.length vs.length = .ok () := by
  rw [ofItems]
  cases fs.read 0 (.items vs (sizeText what fs.names.length)) <;>
    cases finish τ fs.names.length vs.length <;>
    simp [Placed.unplaced, bind, Except.bind, pure, Except.pure]

end Fields

end SlideDeck.Reading
