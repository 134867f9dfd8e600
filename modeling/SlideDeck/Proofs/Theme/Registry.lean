import SlideDeck.Layout.Overview
import SlideDeck.Proofs.Settings.File
import SlideDeck.Proofs.Theme.Latest

/-! What a registry holds after any history: under every id the theme that was registered there last,
and for ids that it does not know the theme registered last under `default`. -/

namespace SlideDeck

namespace Registry

/-- The registries that these registrations lead to, in the order in which they were made. -/
inductive Holds : List (String × Theme) → Registry → Prop
  | builtin : Holds Theme.builtin .builtin
  | ofList {entries : List (String × Theme)} {r : Registry} (made : ofList entries = .ok r) :
    Holds entries r
  | insert {log : List (String × Theme)} {r : Registry} (before : Holds log r) (id : String)
    (t : Theme) : Holds (log ++ [(id, t)]) (r.insert id t)

/-- The theme for an id: the one registered there last, or else the last default one. -/
def themeAfter? (log : List (String × Theme)) (id : String) : Option Theme :=
  (latest? log id).or (latest? log defaultId)

theorem get?_insert (r : Registry) (id : String) (t : Theme) (key : String) :
    (r.insert id t).get? key = if id = key then some t else r.get? key := by
  simp only [get?, insert, Std.ExtTreeMap.getElem?_insert, Std.compare_eq_iff_eq]

theorem ofList_eq (entries : List (String × Theme)) :
    ofList entries =
      match latest? entries defaultId with
      | some fallback => .ok ⟨entries.foldl (fun m e => m.insert e.1 e.2) ∅, fallback⟩
      | none => .error .missingDefaultTheme := by
  have hdefault : (entries.foldl (fun m e => m.insert e.1 e.2)
      (∅ : Std.ExtTreeMap String Theme))[defaultId]? = latest? entries defaultId := by
    rw [getElem?_foldl_insert, Std.ExtTreeMap.getElem?_empty, Option.or_none]
  cases hlatest : latest? entries defaultId <;> simp only [ofList, hdefault, hlatest]

theorem ofList_eq_error_iff {entries : List (String × Theme)} {fault : Fault} :
    ofList entries = .error fault ↔
      fault = .missingDefaultTheme ∧ ∀ e ∈ entries, e.1 ≠ defaultId := by
  rw [ofList_eq, ← latest?_eq_none_iff]
  cases latest? entries defaultId <;> simp [eq_comm]

structure Answers (log : List (String × Theme)) (r : Registry) : Prop where
  get? : ∀ id, r.get? id = latest? log id
  fallback : latest? log defaultId = some r.fallback

namespace Answers

theorem builtin : Answers Theme.builtin .builtin where
  get? id := by
    rw [Registry.get?, Registry.builtin, getElem?_foldl_insert, Std.ExtTreeMap.getElem?_empty,
      Option.or_none]
  fallback := rfl

theorem ofList {entries : List (String × Theme)} {r : Registry}
    (made : Registry.ofList entries = .ok r) : Answers entries r := by
  rw [ofList_eq] at made
  cases hlatest : latest? entries defaultId with
  | none => simp [hlatest] at made
  | some fallback =>
    obtain rfl : _ = r := by simpa [hlatest] using made
    refine ⟨fun id => ?_, hlatest⟩
    rw [Registry.get?, getElem?_foldl_insert, Std.ExtTreeMap.getElem?_empty, Option.or_none]

theorem insert {log : List (String × Theme)} {r : Registry} (h : Answers log r) (id : String)
    (t : Theme) : Answers (log ++ [(id, t)]) (r.insert id t) where
  get? key := by
    rw [get?_insert, h.get?, latest?_append, latest?_singleton]
    by_cases hid : id = key <;> simp [hid]
  fallback := by
    rw [latest?_append, latest?_singleton, h.fallback, Registry.insert]
    by_cases hid : id = defaultId <;> simp [hid]

variable {log : List (String × Theme)} {r : Registry}

theorem get?_default (h : Answers log r) : r.get? defaultId = some r.fallback := by
  rw [h.get?, h.fallback]

theorem resolve (h : Answers log r) (id : String) : some (r.resolve id) = themeAfter? log id := by
  rw [Registry.resolve, themeAfter?, h.get?, h.fallback]
  cases latest? log id <;> rfl

theorem themeFor (h : Answers log r) (a : Assignment) (slide : Nat) :
    some (r.themeFor a slide) = themeAfter? log (a.idFor slide) := by
  rw [← h.resolve, Registry.themeFor, resolveFor, Assignment.idFor]
  cases a.slides[slide]? <;> rfl

end Answers

theorem Holds.answers {log : List (String × Theme)} {r : Registry} (h : Holds log r) :
    Answers log r := by
  induction h with
  | builtin => exact .builtin
  | ofList made => exact .ofList made
  | insert _ id t ih => exact ih.insert id t

theorem Holds.foldl_insert {log : List (String × Theme)} {r : Registry} (h : Holds log r)
    (entries : List (String × Theme)) :
    Holds (log ++ entries) (entries.foldl (fun r e => r.insert e.1 e.2) r) := by
  induction entries generalizing log r with
  | nil => rwa [List.append_nil]
  | cons e entries ih =>
    have hrest := ih (h.insert e.1 e.2)
    rwa [List.append_assoc] at hrest

end Registry

theorem Settings.holds_of_read {text : String} {s : Settings} (h : Settings.read text = .ok s) :
    ∃ f, SettingsFile.read text = .ok f ∧
      Registry.Holds (Theme.builtin ++ f.themes.getD []) s.registry := by
  obtain ⟨f, hf, happly⟩ := Settings.read_eq_ok_iff.1 h
  obtain ⟨a, c, -, -, rfl⟩ := SettingsFile.apply_eq_ok_iff.1 happly
  exact ⟨f, hf, Registry.Holds.builtin.foldl_insert _⟩

theorem Layout.getElem?_overview (doc : Document) (s : Settings) (i : Nat) :
    (Layout.Overview.ofDocument doc s).slides[i]? = doc.slides[i]?.map fun slide =>
      ⟨i, slide.title, s.assignment.idFor i, slide.blocks.length,
        Layout.describe slide (s.themeFor i) s.canvas s.layout⟩ := by
  simp only [Layout.Overview.ofDocument, Layout.Overview.ofLayouts, Layout.document,
    List.getElem?_mapIdx, List.zip, List.getElem?_zipWith]
  cases doc.slides[i]? <;> rfl

/-- Whatever was registered before, the theme for ids that are not known is the one registered under
`default`; every other id has its own latest theme. The themes of a file are registered behind the
ones that are built in, an overview names the id of each slide and the theme that it leads to, and
only a list of themes without a default one makes no registry. -/
theorem registries_follow_history :
    (∀ log r, Registry.Holds log r →
        r.get? defaultId = some r.fallback ∧
          (∀ id, r.get? id = latest? log id) ∧
          ∀ (a : Assignment) (i : Nat), some (r.themeFor a i) =
            (latest? log (a.idFor i)).or (latest? log defaultId)) ∧
      (∀ text s, Settings.read text = .ok s → ∃ f, SettingsFile.read text = .ok f ∧
        Registry.Holds (Theme.builtin ++ f.themes.getD []) s.registry) ∧
      (∀ log (s : Settings), Registry.Holds log s.registry → ∀ doc,
        (Layout.Overview.ofDocument doc s).slides.length = doc.slides.length ∧
          ∀ i o, (Layout.Overview.ofDocument doc s).slides[i]? = some o →
            o.index = i ∧ o.themeId = s.assignment.idFor i ∧
              some o.layout.theme =
                ((latest? log o.themeId).or (latest? log defaultId)).map Theme.name) ∧
      ∀ entries, (∃ fault, Registry.ofList entries = .error fault) ↔
        ∀ e ∈ entries, e.1 ≠ defaultId := by
  refine ⟨fun log r h => ?_, fun text s h => Settings.holds_of_read h, fun log s h doc => ?_,
    fun entries => ?_⟩
  · have hanswers := h.answers
    exact ⟨hanswers.get?_default, hanswers.get?, hanswers.themeFor⟩
  · have hanswers := h.answers
    refine ⟨by simp [Layout.Overview.ofDocument, Layout.Overview.ofLayouts, Layout.document],
      fun i o ho => ?_⟩
    rw [Layout.getElem?_overview] at ho
    obtain ⟨slide, -, rfl⟩ := Option.map_eq_some_iff.1 ho
    refine ⟨rfl, rfl, ?_⟩
    rw [← Registry.themeAfter?, ← hanswers.themeFor]
    rfl
  · simp only [Registry.ofList_eq_error_iff, exists_eq_left]

/-- A registry made from two default themes, in which the default theme is replaced once more. -/
theorem replaced_default_is_current :
    let dark := { Theme.professionalCard with name := "Dark" }
    let plain := { Theme.professionalCard with name := "Plain" }
    let entries := [(defaultId, Theme.professionalCard), ("dark", dark), (defaultId, dark)]
    ∃ r, Registry.ofList entries = .ok r ∧
      (r.insert defaultId plain).get? defaultId = some plain ∧
      (r.insert defaultId plain).themeFor (.ofId "unknown") 3 = plain := by
  intro dark plain entries
  obtain ⟨r, hr⟩ : ∃ r, Registry.ofList entries = .ok r := by
    rw [Registry.ofList_eq]
    exact ⟨_, rfl⟩
  obtain ⟨hdefault, hget, htheme⟩ :=
    registries_follow_history.1 _ _ ((Registry.Holds.ofList hr).insert defaultId plain)
  refine ⟨r, hr, ?_, ?_⟩
  · rw [hget]
    rfl
  · refine Option.some.inj ((htheme (.ofId "unknown") 3).trans ?_)
    have hid : (Assignment.ofId "unknown").idFor 3 = "unknown" := by
      simp [Assignment.ofId, Assignment.idFor]
    rw [hid]
    rfl

end SlideDeck
