import Mathlib.Data.List.Nodup
import SlideDeck.Json.Value

/-! JSON values as they are carried from a writer to a reader. The members of a record have no order
of their own, a number does not say how precise it is, and one that is not finite cannot be
written. -/

namespace SlideDeck.Json

mutual

/-- What a value is carried as. A record may have its members in any order. A number of single
precision may be any number that is rounded to it. For one that is not finite null stands. -/
inductive Carried : Json → Json → Prop
  | null : Carried .null .null
  | bool (b : Bool) : Carried (.bool b) (.bool b)
  | int (n : Int) : Carried (.int n) (.int n)
  | text (s : String) : Carried (.text s) (.text s)
  | single (x : Float32) : Carried (.single x) (.single x)
  | whole {x : Float32} {n : Int} (same : .ofInt n = x) : Carried (.single x) (.int n)
  | wide {x : Float32} {y : Float} (same : y.toFloat32 = x) : Carried (.single x) (.double y)
  | noSingle {x : Float32} (infinite : x.isFinite = false) : Carried (.single x) .null
  | double (x : Float) : Carried (.double x) (.double x)
  | noDouble {x : Float} (infinite : x.isFinite = false) : Carried (.double x) .null
  | list {vs ws : List Json} (items : List.Forall₂ Carried vs ws) : Carried (.list vs) (.list ws)
  | record {ms ns ns' : List (String × Json)} (members : CarriedMembers ms ns)
      (order : ns.Perm ns') : Carried (.record ms) (.record ns')

inductive CarriedMembers : List (String × Json) → List (String × Json) → Prop
  | nil : CarriedMembers [] []
  | cons (key : String) {v w : Json} {ms ns : List (String × Json)} (value : Carried v w)
      (members : CarriedMembers ms ns) : CarriedMembers ((key, v) :: ms) ((key, w) :: ns)

end

mutual

theorem carried_self : ∀ v : Json, v.Carried v
  | .null => .null
  | .bool b => .bool b
  | .int n => .int n
  | .text s => .text s
  | .single x => .single x
  | .double x => .double x
  | .list items => .list (carriedItems_self items)
  | .record ms => .record (carriedMembers_self ms) (.refl _)

theorem carriedItems_self : ∀ vs : List Json, List.Forall₂ Carried vs vs
  | [] => .nil
  | v :: vs => .cons (carried_self v) (carriedItems_self vs)

theorem carriedMembers_self : ∀ ms : List (String × Json), CarriedMembers ms ms
  | [] => .nil
  | (k, v) :: ms => .cons k (carried_self v) (carriedMembers_self ms)

end

mutual

/-- The value with its members in the order of their keys, and null for numbers that are not
finite. -/
def kept : Json → Json
  | .list items => .list (keptItems items)
  | .record members => .record (keptRecord members)
  | .null => .null
  | .bool b => .bool b
  | .int n => .int n
  | .single x => if x.isFinite then .single x else .null
  | .double x => if x.isFinite then .double x else .null
  | .text s => .text s

def keptItems : List Json → List Json
  | [] => []
  | v :: vs => kept v :: keptItems vs

def keptRecord : List (String × Json) → List (String × Json)
  | [] => []
  | (k, v) :: ms => insertMember k (kept v) (keptRecord ms)

end

theorem insertMember_perm (k : String) (v : Json) (ms : List (String × Json)) :
    (insertMember k v ms).Perm ((k, v) :: ms) := by
  induction ms with
  | nil => exact .refl _
  | cons m ms ih =>
    unfold insertMember
    split
    · exact .refl _
    · exact (ih.cons m).trans (.swap ..)

mutual

theorem carried_kept : ∀ v : Json, v.Carried v.kept
  | .null => .null
  | .bool b => .bool b
  | .int n => .int n
  | .text s => .text s
  | .single x => by
    unfold kept
    split
    next => exact .single x
    next h => exact .noSingle (Bool.eq_false_iff.2 h)
  | .double x => by
    unfold kept
    split
    next => exact .double x
    next h => exact .noDouble (Bool.eq_false_iff.2 h)
  | .list items => .list (carried_keptItems items)
  | .record ms => by
    obtain ⟨ns, hmembers, horder⟩ := carried_keptRecord ms
    exact .record hmembers horder

theorem carried_keptItems : ∀ vs : List Json, List.Forall₂ Carried vs (keptItems vs)
  | [] => .nil
  | v :: vs => .cons (carried_kept v) (carried_keptItems vs)

theorem carried_keptRecord : ∀ ms : List (String × Json),
    ∃ ns, CarriedMembers ms ns ∧ ns.Perm (keptRecord ms)
  | [] => ⟨[], .nil, .refl _⟩
  | (k, v) :: ms => by
    obtain ⟨ns, hmembers, horder⟩ := carried_keptRecord ms
    refine ⟨(k, v.kept) :: ns, .cons k (carried_kept v) hmembers, ?_⟩
    exact (horder.cons _).trans (insertMember_perm k v.kept _).symm

end

theorem lookup_of_mem {ms : List (String × Json)} (hkeys : (ms.map Prod.fst).Nodup) {key : String}
    {v : Json} (hmem : (key, v) ∈ ms) : ms.lookup key = some v := by
  obtain ⟨before, behind, rfl⟩ := List.append_of_mem hmem
  rw [List.map_append, List.map_cons, List.nodup_middle, List.nodup_cons, List.mem_append] at hkeys
  refine List.lookup_eq_some_iff.2 ⟨before, behind, rfl, fun m hm => ?_⟩
  have hne : key ≠ m.1 := fun heq => hkeys.1 (.inl (List.mem_map.2 ⟨m, hm, heq.symm⟩))
  simpa using hne

structure SameMembers (ms ns : List (String × Json)) : Prop where
  keys : (ns.map Prod.fst).Perm (ms.map Prod.fst)
  values : ∀ m ∈ ms, ∃ v, (m.1, v) ∈ ns ∧ m.2.Carried v

theorem CarriedMembers.same {ms ns : List (String × Json)} (h : CarriedMembers ms ns) :
    SameMembers ms ns := by
  induction ms generalizing ns with
  | nil =>
    cases h
    exact ⟨.refl _, by simp⟩
  | cons m ms ih =>
    cases h with
    | cons key hvalue hmembers =>
      have hrest := ih hmembers
      refine ⟨hrest.keys.cons key, List.forall_mem_cons.2 ⟨⟨_, List.mem_cons_self, hvalue⟩, ?_⟩⟩
      intro m hm
      obtain ⟨v, hv, hcarried⟩ := hrest.values m hm
      exact ⟨v, List.mem_cons_of_mem _ hv, hcarried⟩

theorem CarriedMembers.eq_of_texts {ms ns : List (String × Json)} (h : CarriedMembers ms ns)
    (htexts : ∀ m ∈ ms, ∃ s, m.2 = .text s) : ns = ms := by
  induction ms generalizing ns with
  | nil =>
    cases h
    rfl
  | cons m ms ih =>
    cases h with
    | cons key hvalue hmembers =>
      obtain ⟨⟨s, hs⟩, hrest⟩ := List.forall_mem_cons.1 htexts
      subst hs
      cases hvalue
      rw [ih hmembers hrest]

theorem Carried.exists_members {ms : List (String × Json)} {w : Json}
    (h : (Json.record ms).Carried w) : ∃ ns, w = .record ns ∧ SameMembers ms ns := by
  cases h with
  | record hmembers horder =>
    have hsame := hmembers.same
    refine ⟨_, rfl, (horder.map _).symm.trans hsame.keys, fun m hm => ?_⟩
    obtain ⟨v, hv, hcarried⟩ := hsame.values m hm
    exact ⟨v, horder.mem_iff.1 hv, hcarried⟩

theorem Carried.exists_perm_of_texts {ms : List (String × Json)} {w : Json}
    (h : (Json.record ms).Carried w) (htexts : ∀ m ∈ ms, ∃ s, m.2 = .text s) :
    ∃ ns, w = .record ns ∧ ms.Perm ns := by
  cases h with
  | record hmembers horder =>
    obtain rfl := hmembers.eq_of_texts htexts
    exact ⟨_, rfl, horder⟩

theorem SameMembers.without {key : String} {v : Json} {ms ns : List (String × Json)}
    (h : SameMembers ((key, v) :: ms) ns) (hkey : key ∉ ms.map Prod.fst) :
    SameMembers ms (ns.filter fun m => m.1 != key) := by
  have hne : ∀ m ∈ ms, (m.1 != key) = true := fun m hm =>
    bne_iff_ne.2 fun heq => hkey (heq ▸ List.mem_map_of_mem hm)
  constructor
  · have hkeys := h.keys.filter fun other => other != key
    have hself : (ms.map Prod.fst).filter (fun other => other != key) = ms.map Prod.fst := by
      rw [List.filter_eq_self, List.forall_mem_map]
      exact hne
    rwa [List.map_cons, List.filter_cons_of_neg (by simp), hself, List.filter_map] at hkeys
  · intro m hm
    obtain ⟨w, hw, hcarried⟩ := h.values m (List.mem_cons_of_mem _ hm)
    exact ⟨w, List.mem_filter.2 ⟨hw, hne m hm⟩, hcarried⟩

end SlideDeck.Json
