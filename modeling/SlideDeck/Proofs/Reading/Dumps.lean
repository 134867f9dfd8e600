import SlideDeck.Json.Theme
import SlideDeck.Proofs.Json.Number
import SlideDeck.Proofs.Reading.Document
import SlideDeck.Proofs.Theme.Assignment
import SlideDeck.Proofs.Theme.Color
import SlideDeck.Reading.Theme

/-! Themes, and assignments of themes, are read from what their JSON values are carried as. The slides
of an assignment are keys, which may come in any order. -/

namespace SlideDeck.Reading

open Fields.Takes (field)

section

variable {τ : Type} [Source τ] {put : Json → τ}

/-! ## Themes -/

theorem Shows.color (h : Shows put) (c : Color) : Reads put color c.toJson c := by
  intro w hw
  simp only [Reading.color, h.text _ w hw, bind, Except.bind, Color.read_toHex]

theorem Shows.category (h : Shows put) (c : Category) : Reads put category c.toJson c :=
  h.variant (by cases c <;> rfl)

theorem Shows.textStyle (h : Shows put) {s : TextStyle} (hs : s.fontSize.isFinite = true) :
    Reads put textStyle s.toJson s := by
  obtain ⟨family, size, bold, color⟩ := s
  refine h.record (.seq (.seq (.seq (.map ?_ TextStyle.mk) ?_) ?_) ?_) rfl (by simp)
  · exact field (h.text family) (by simp) _
  · exact field (h.size hs) (by simp) _
  · exact field (h.flag bold) (by simp) _
  · exact field (h.color color) (by simp) _

theorem Shows.palette (h : Shows put) (p : Palette) : Reads put palette p.toJson p := by
  obtain ⟨background, primary, card, text⟩ := p
  refine h.record (.seq (.seq (.seq (.map ?_ Palette.mk) ?_) ?_) ?_) rfl (by simp)
  · exact field (h.color background) (by simp) _
  · exact field (h.color primary) (by simp) _
  · exact field (h.color card) (by simp) _
  · exact field (h.color text) (by simp) _

theorem Shows.typography (h : Shows put) {t : Typography}
    (ht : ∀ s ∈ [t.header, t.body, t.footer], s.fontSize.isFinite = true) :
    Reads put typography t.toJson t := by
  obtain ⟨header, body, footer⟩ := t
  simp only [List.forall_mem_cons] at ht
  obtain ⟨hheader, hbody, hfooter, -⟩ := ht
  refine h.record (.seq (.seq (.map ?_ Typography.mk) ?_) ?_) rfl (by simp)
  · exact field (h.textStyle hheader) (by simp) _
  · exact field (h.textStyle hbody) (by simp) _
  · exact field (h.textStyle hfooter) (by simp) _

theorem Shows.theme (h : Shows put) {t : Theme}
    (ht : ∀ s ∈ [t.typography.header, t.typography.body, t.typography.footer],
      s.fontSize.isFinite = true) : Reads put theme t.toJson t := by
  obtain ⟨name, category, colors, typography⟩ := t
  refine h.record (.seq (.seq (.seq (.map ?_ Theme.mk) ?_) ?_) ?_) rfl (by simp)
  · exact field (h.text name) (by simp) _
  · exact field (h.category category) (by simp) _
  · exact field (h.palette colors) (by simp) _
  · exact field (h.typography ht) (by simp) _

/-! ## Assignments -/

theorem indexOfKey_indexKey {i : Nat} (h : i < Json.Number.naturals) :
    indexOfKey (indexKey i) = .ok i := by
  have hread := Json.Number.read_toDigits h
  simp [indexOfKey, indexKey, Text.numeral, Json.Number.startsWithDigit_toDigits, hread,
    indexOfNumber, bind, Except.bind]

theorem Shows.slideThemes (h : Shows put) {entries : List (Nat × String)}
    (hsmall : ∀ e ∈ entries, e.1 < Json.Number.naturals) {w : Json}
    (hw : (Json.record (entries.map fun e => (indexKey e.1, .text e.2))).Carried w) :
    ∃ read, slideThemes (put w) = .ok read ∧ entries.Perm read := by
  obtain ⟨ns, rfl, horder⟩ := hw.exists_perm_of_texts
    (List.forall_mem_map.2 fun e _ => ⟨e.2, rfl⟩)
  let readMember (m : Except Misfit String × τ) : Except Misfit (Nat × String) := do
    return (← indexOfKey (← m.1), ← Reading.text m.2)
  have hread : ∀ e ∈ entries, readMember (.ok (indexKey e.1), put (.text e.2)) = .ok e := by
    intro e he
    have hkey := indexOfKey_indexKey (hsmall e he)
    have htext := h.text e.2 _ (.text e.2)
    simp only [readMember, hkey, htext, bind, Except.bind, pure, Except.pure]
  have hput := horder.map fun m => ((.ok m.1, put m.2) : Except Misfit String × τ)
  rw [List.map_map] at hput
  obtain ⟨read, hall, hperm⟩ := exists_mapM_of_perm hread hput
  refine ⟨read, ?_, hperm⟩
  rw [Reading.slideThemes, h.look_record]
  exact hall

/-- The order of the entries does not matter, since no two are of one slide. -/
theorem foldl_set_of_perm {a : Assignment} {entries : List (Nat × String)}
    (h : a.toList.Perm entries) :
    entries.foldl (fun a e => a.set e.1 e.2) (Assignment.ofId a.deck) = a := by
  refine Assignment.eq_of_slides ?_ fun i => ?_
  · rw [Assignment.foldl_set]
    rfl
  · rw [Assignment.getElem?_foldl_set, latest?_eq_getElem? fun e => h.symm.mem_iff, Assignment.ofId,
      Std.ExtTreeMap.getElem?_empty, Option.or_none]

theorem Shows.assignment (h : Shows put) {a : Assignment}
    (hsmall : ∀ i ∈ a.slides, i < Json.Number.naturals) : Reads put assignment a.toJson a := by
  have hindices : ∀ e ∈ a.toList, e.1 < Json.Number.naturals := by
    intro e he
    have hget := Std.ExtTreeMap.mem_toList_iff_getElem?_eq_some.1 he
    exact hsmall e.1 (Std.ExtTreeMap.mem_iff_isSome_getElem?.2 (hget ▸ rfl))
  refine h.record (fun hkeys ns hns => ?_) rfl (by simp)
  obtain ⟨slides, hslides, hperm⟩ := Fields.Takes.exists_gives
    (fun w hw => h.slideThemes hindices hw) (List.mem_cons_of_mem _ List.mem_cons_self)
    (.default []) hkeys hns
  have hdeck := field (h.text a.deck) List.mem_cons_self .missing hkeys ns hns
  rw [← foldl_set_of_perm hperm]
  exact (hdeck.map _).seq hslides

end

/-- Documents, assignments of themes to slides that have an index of 64 bits, and themes with finite
sizes are read from whatever their JSON values are carried as. The colours in them are texts of a
number sign and six digits. A value can be carried as it is, or with its keys in order. -/
theorem dumps_read_back :
    (∀ (d : Document) (v : Json), d.toJson.Carried v → document v = .ok d) ∧
      (∀ (a : Assignment) (v : Json), (∀ i ∈ a.slides, i < Json.Number.naturals) →
        a.toJson.Carried v → assignment v = .ok a) ∧
      (∀ (t : Theme) (v : Json), (∀ s ∈ [t.typography.header, t.typography.body,
        t.typography.footer], s.fontSize.isFinite = true) → t.toJson.Carried v → theme v = .ok t) ∧
      (∀ c : Color, ∃ digits : List Char, c.toJson = .text (.ofList ('#' :: digits)) ∧
        digits.length = 6 ∧ ∀ d ∈ digits, d ∈ "0123456789abcdef".toList) ∧
      ∀ v : Json, v.Carried v ∧ v.Carried v.kept := by
  refine ⟨fun d v hv => ?_, fun a v hsmall hv => ?_, fun t v hfinite hv => ?_,
    fun c => ?_, fun v => ⟨v.carried_self, v.carried_kept⟩⟩
  · exact reads_document d v hv
  · exact shows_json.assignment hsmall v hv
  · exact shows_json.theme hfinite v hv
  · obtain ⟨digits, htext, hdigits⟩ := c.exists_digits_toHex
    exact ⟨digits, congrArg Json.text htext, hdigits⟩

/-- Slide 10 comes before slide 2 in the order of the keys. -/
theorem deck_dump_reads_back :
    let d : Document :=
      ⟨[⟨some "Plan", [.heading 2 [⟨"Steps", true⟩], .text [⟨"one", false⟩, ⟨"two", true⟩] true,
          .table [⟨[⟨[⟨"a", false⟩]⟩, ⟨[]⟩], true⟩, ⟨[], false⟩]]⟩, ⟨none, []⟩]⟩
    let a : Assignment := ((Assignment.ofId "default").set 10 "dark").set 2 "light"
    document d.toJson.kept = .ok d ∧ assignment a.toJson.kept = .ok a ∧
      theme Theme.professionalCard.toJson.kept = .ok Theme.professionalCard := by
  obtain ⟨hdocument, hassignment, htheme, -, hcarried⟩ := dumps_read_back
  refine ⟨hdocument _ _ (hcarried _).2, hassignment _ _ ?_ (hcarried _).2,
    htheme _ _ ?_ (hcarried _).2⟩
  · intro i hi
    have hslides : 2 = i ∨ 10 = i := by
      simpa [Assignment.set, Assignment.ofId, Std.compare_eq_iff_eq] using hi
    rcases hslides with rfl | rfl <;> decide
  · decide

end SlideDeck.Reading
