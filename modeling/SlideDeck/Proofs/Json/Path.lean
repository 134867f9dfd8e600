import SlideDeck.Json.Path

/-! What is at a path, and that it does not depend on the order of the members. -/

namespace SlideDeck.Json

section Reading

variable (v : Json) (key : String) (path : List String)

@[simp] theorem member?_nil : (record []).member? key = none := rfl

@[simp] theorem valueAt?_nil : v.valueAt? [] = some v := rfl

@[simp] theorem textAt?_nil : v.textAt? [] = v.text? := rfl

@[simp] theorem natAt?_nil : v.natAt? [] = v.nat? := rfl

@[simp] theorem doubleAt?_nil : v.doubleAt? [] = v.double? := rfl

@[simp] theorem textAt?_cons : v.textAt? (key :: path) = (v.member? key).bind (·.textAt? path) :=
  Option.bind_assoc ..

@[simp] theorem natAt?_cons : v.natAt? (key :: path) = (v.member? key).bind (·.natAt? path) :=
  Option.bind_assoc ..

@[simp] theorem doubleAt?_cons :
    v.doubleAt? (key :: path) = (v.member? key).bind (·.doubleAt? path) := Option.bind_assoc ..

@[simp] theorem text?_text (s : String) : (text s).text? = some s := rfl

@[simp] theorem nat?_nat (n : Nat) : (nat n).nat? = some n := rfl

@[simp] theorem double?_double (x : Float) : (double x).double? = finite? x := rfl

end Reading

section Order

theorem lookup_insertMember (k key : String) (v : Json) (members : List (String × Json)) :
    (insertMember k v members).lookup key = ((k, v) :: members).lookup key := by
  induction members with
  | nil => rfl
  | cons m members ih =>
    unfold insertMember
    split
    · rfl
    next hlt =>
      -- The new member is behind this one, whose key is smaller and so another one.
      rw [List.lookup_cons, ih, List.lookup_cons, List.lookup_cons, List.lookup_cons]
      by_cases hk : key = k
      · have hne : (key == m.1) = false := beq_false_of_ne fun h => hlt (hk ▸ h ▸ String.le_refl _)
        rw [hne]
      · rw [beq_false_of_ne hk]

theorem lookup_sortRecord (key : String) (members : List (String × Json)) :
    (sortRecord members).lookup key = (members.lookup key).map sortMembers := by
  induction members with
  | nil => rfl
  | cons m members ih =>
    obtain ⟨k, v⟩ := m
    rw [sortRecord, lookup_insertMember, List.lookup_cons, List.lookup_cons, ih]
    cases key == k <;> rfl

@[simp] theorem member?_sortMembers (key : String) (v : Json) :
    v.sortMembers.member? key = (v.member? key).map sortMembers := by
  cases v with
  | record members => exact lookup_sortRecord key members
  | _ => rfl

theorem valueAt?_sortMembers (path : List String) (v : Json) :
    v.sortMembers.valueAt? path = (v.valueAt? path).map sortMembers := by
  induction path generalizing v with
  | nil => rfl
  | cons key path ih =>
    rw [valueAt?, valueAt?, member?_sortMembers]
    cases v.member? key with
    | none => rfl
    | some child => exact ih child

theorem isRecord_sortMembers (v : Json) : v.sortMembers.isRecord = v.isRecord := by
  cases v <;> rfl

@[simp] theorem text?_sortMembers (v : Json) : v.sortMembers.text? = v.text? := by
  cases v <;> rfl

@[simp] theorem nat?_sortMembers (v : Json) : v.sortMembers.nat? = v.nat? := by
  cases v <;> rfl

@[simp] theorem double?_sortMembers (v : Json) : v.sortMembers.double? = v.double? := by
  cases v <;> rfl

end Order

/-- Every value that is not a record lies at one of the paths or further inside. -/
def CoveredBy (v : Json) (paths : List (List String)) : Prop :=
  ∀ path w, v.valueAt? path = some w → w.isRecord = false → ∃ p ∈ paths, p <+: path

theorem mem_of_member? {members : List (String × Json)} {key : String} {v : Json}
    (h : (record members).member? key = some v) : (key, v) ∈ members := by
  obtain ⟨before, after, rfl, -⟩ := List.lookup_eq_some_iff.1 h
  exact List.mem_append_right before List.mem_cons_self

theorem coveredBy_record {members : List (String × Json)} {paths : List (List String)}
    (h : ∀ m ∈ members, ∃ inner, m.2.CoveredBy inner ∧ ∀ p ∈ inner, m.1 :: p ∈ paths) :
    (record members).CoveredBy paths := by
  intro path w hw hrecord
  cases path with
  | nil =>
    obtain rfl := Option.some.inj hw
    cases hrecord
  | cons key path =>
    obtain ⟨v, hv, hw⟩ := Option.bind_eq_some_iff.1 hw
    obtain ⟨inner, hinner, hmem⟩ := h (key, v) (mem_of_member? hv)
    obtain ⟨p, hp, hprefix⟩ := hinner path w hw hrecord
    exact ⟨key :: p, hmem p hp, List.cons_prefix_cons.2 ⟨rfl, hprefix⟩⟩

theorem CoveredBy.member {v : Json} {inner paths : List (List String)} {key : String}
    (h : v.CoveredBy inner) (hmem : ∀ p ∈ inner, key :: p ∈ paths) :
    (record [(key, v)]).CoveredBy paths := by
  refine coveredBy_record fun m hm => ?_
  obtain rfl := List.mem_singleton.1 hm
  exact ⟨inner, h, hmem⟩

theorem CoveredBy.sortMembers {v : Json} {paths : List (List String)} (h : v.CoveredBy paths) :
    v.sortMembers.CoveredBy paths := by
  intro path w hw hrecord
  rw [valueAt?_sortMembers] at hw
  obtain ⟨u, hu, rfl⟩ := Option.map_eq_some_iff.1 hw
  rw [isRecord_sortMembers] at hrecord
  exact h path u hu hrecord

end SlideDeck.Json
