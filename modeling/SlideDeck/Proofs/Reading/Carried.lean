import SlideDeck.Proofs.Json.Carried
import SlideDeck.Proofs.Reading.Records
import SlideDeck.Reading.Json

/-! Readers of carried JSON values. A record is read again if each of its fields is, and a list if
each of its items is, in every source that shows JSON values as what they are. -/

namespace SlideDeck.Reading

def View.map {τ υ : Type} (f : τ → υ) : View τ → View υ
  | .null => .null
  | .flag b => .flag b
  | .whole n => .whole n
  | .real x => .real x
  | .text s => .text s
  | .list vs => .list (vs.map f)
  | .record ms => .record (ms.map fun m => (m.1, f m.2))

/-- A source in which JSON values show as what they are. -/
structure Shows {τ : Type} [Source τ] (put : Json → τ) : Prop where
  look : ∀ v, Source.look (put v) = .ok (v.look.map put)
  isNull : ∀ v, Source.isNull (put v) = v.isNull
  single : ∀ v, Source.single (put v) = v.readSingle
  choice : ∀ v, Source.choice (put v) = v.choice.map fun c => (c.1, c.2.map put)

theorem shows_json : Shows (id : Json → Json) where
  look v := by cases v <;> simp [Source.look, Json.look, View.map]
  isNull _ := rfl
  single _ := rfl
  choice v := by cases h : v.choice <;> simp [Source.choice, h, Except.map]

theorem shows_reread : Shows Reread.mk where
  look v := by cases v <;> simp [Source.look, Reread.look, Json.look, View.map]
  isNull _ := rfl
  single _ := rfl
  choice _ := rfl

def Reads {τ α : Type} (put : Json → τ) (r : Reader τ α) (v : Json) (a : α) : Prop :=
  ∀ w, v.Carried w → r (put w) = .ok a

/-- The fields are read as `a`, whatever the members are carried as and wherever they stand. -/
def Fields.Takes {τ α : Type} (put : Json → τ) (fs : Fields τ α) (ms : List (String × Json)) (a : α) :
    Prop :=
  (ms.map Prod.fst).Nodup → ∀ ns, Json.SameMembers ms ns →
    fs.Gives (.ofNamed (ns.map fun m => (m.1, put m.2))) a

section

variable {τ α β : Type} {put : Json → τ}

namespace Fields.Takes

variable {ms : List (String × Json)}

theorem map {fs : Fields τ α} {a : α} (h : fs.Takes put ms a) (g : α → β) :
    (g <$> fs).Takes put ms (g a) := fun hkeys ns hns => (h hkeys ns hns).map g

theorem seq {fs : Fields τ (α → β)} {x : Fields τ α} {g : α → β} {a : α}
    (hg : fs.Takes put ms g) (ha : x.Takes put ms a) : (fs <*> x).Takes put ms (g a) :=
  fun hkeys ns hns => (hg hkeys ns hns).seq (ha hkeys ns hns)

theorem exists_gives {name : String} {v : Json} {r : Reader τ α} {P : α → Prop}
    (h : ∀ w, v.Carried w → ∃ a, r (put w) = .ok a ∧ P a) (hmem : (name, v) ∈ ms)
    (absence : Absence α) (hkeys : (ms.map Prod.fst).Nodup) {ns : List (String × Json)}
    (hns : Json.SameMembers ms ns) :
    ∃ a, (Fields.field name r absence).Gives (.ofNamed (ns.map fun m => (m.1, put m.2))) a ∧ P a := by
  obtain ⟨w, hw, hcarried⟩ := hns.values _ hmem
  obtain ⟨a, hread, ha⟩ := h w hcarried
  have hput : (name, put w) ∈ ns.map fun m => (m.1, put m.2) := List.mem_map.2 ⟨_, hw, rfl⟩
  refine ⟨a, gives_field ?_ hput hread absence, ha⟩
  rw [List.map_map]
  exact hns.keys.nodup_iff.2 hkeys

theorem field {name : String} {v : Json} {r : Reader τ α} {a : α} (h : Reads put r v a)
    (hmem : (name, v) ∈ ms) (absence : Absence α) : (field name r absence).Takes put ms a := by
  intro hkeys ns hns
  obtain ⟨_, hgives, rfl⟩ :=
    exists_gives (P := (· = a)) (fun w hw => ⟨a, h w hw, rfl⟩) hmem absence hkeys hns
  exact hgives

variable [Source τ]

theorem ofMembers {fs : Fields τ α} {a : α} (h : fs.Takes put ms a)
    (hkeys : ms.map Prod.fst = fs.names) (hnames : (ms.map Prod.fst).Nodup) {ns : List (String × Json)}
    (hns : Json.SameMembers ms ns) : fs.ofMembers (ns.map fun m => (.ok m.1, put m.2)) = .ok a := by
  have hknown : ∀ m ∈ ns.map (fun m => (m.1, put m.2)), m.1 ∈ fs.names := by
    intro m hm
    obtain ⟨n, hn, rfl⟩ := List.mem_map.1 hm
    rw [← hkeys]
    exact hns.keys.mem_iff.1 (List.mem_map_of_mem hn)
  have hread := ofMembers_of_gives (h hnames ns hns) hknown
  rwa [List.map_map] at hread

end Fields.Takes

variable [Source τ]

theorem Shows.look_record (h : Shows put) (ms : List (String × Json)) :
    Source.look (put (.record ms)) = .ok (.record (ms.map fun m => (.ok m.1, put m.2))) := by
  rw [h.look, Json.look, View.map, List.map_map]
  rfl

theorem Shows.record (h : Shows put) {what : String} {fs : Fields τ α}
    {ms : List (String × Json)} {a : α} (hfields : fs.Takes put ms a)
    (hkeys : ms.map Prod.fst = fs.names) (hnames : (ms.map Prod.fst).Nodup) :
    Reads put (record what fs) (.record ms) a := by
  intro w hw
  obtain ⟨ns, rfl, hns⟩ := hw.exists_members
  rw [Reading.record, h.look_record]
  exact hfields.ofMembers hkeys hnames hns

theorem Shows.text (h : Shows put) (s : String) : Reads put text (.text s) s := by
  intro w hw
  cases hw
  rw [Reading.text, h.look]
  rfl

theorem Shows.flag (h : Shows put) (b : Bool) : Reads put flag (.bool b) b := by
  intro w hw
  cases hw
  rw [Reading.flag, h.look]
  rfl

theorem Shows.whole (h : Shows put) {bound n : Nat} (hn : n < bound) (what : String) :
    Reads put (whole bound what) (.nat n) n := by
  intro w hw
  cases hw
  rw [Reading.whole, h.look]
  exact if_pos ⟨Int.natCast_nonneg n, Int.ofNat_lt.2 hn⟩

theorem Shows.byte (h : Shows put) (n : UInt8) : Reads put byte (.nat n.toNat) n := by
  intro w hw
  rw [Reading.byte, h.whole n.toNat_lt "u8" w hw]
  exact congrArg Except.ok UInt8.ofNat_toNat

theorem Shows.size (h : Shows put) {x : Float32} (hx : x.isFinite = true) :
    Reads put Reading.single (.single x) x := by
  intro w hw
  cases hw with
  | single => exact h.single _
  | whole hsame | wide hsame =>
    rw [Reading.single, h.single, Json.readSingle, hsame]
  | noSingle hnot => simp [hx] at hnot

theorem Shows.title (h : Shows put) (title : Option String) :
    Reads put (optional Reading.text) (.opt .text title) title := by
  intro w hw
  cases title with
  | none =>
    cases hw
    rw [optional, h.isNull]
    rfl
  | some s =>
    have hread := h.text s w hw
    cases hw
    rw [optional, h.isNull, hread]
    rfl

theorem Shows.list (h : Shows put) {r : Reader τ α} {f : α → Json} {as : List α}
    (hall : ∀ a ∈ as, Reads put r (f a) a) : Reads put (list r) (.listOf f as) as := by
  intro w hw
  cases hw with
  | list hitems =>
    rename_i ws
    have hread : (ws.map put).mapM r = .ok as := by
      induction as generalizing ws with
      | nil =>
        cases hitems
        rfl
      | cons a as ih =>
        obtain ⟨hfirst, hrest⟩ := List.forall_mem_cons.1 hall
        cases hitems with
        | cons hcarried hitems =>
          rw [List.map_cons, List.mapM_cons, hfirst _ hcarried, ih hrest hitems]
          rfl
    rw [Reading.list, items, h.look]
    exact hread

theorem Shows.variant (h : Shows put) {names : List (String × α)} {name : String} {a : α}
    (hname : names.lookup name = some a) : Reads put (variant names) (.text name) a := by
  intro w hw
  cases hw
  rw [Reading.variant, h.choice]
  simp only [Json.choice, Except.map, bind, Except.bind, hname, Option.map_none]

end

end SlideDeck.Reading
