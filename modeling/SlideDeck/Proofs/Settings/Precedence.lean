import SlideDeck.Proofs.Settings.Reordered
import SlideDeck.Proofs.Text.ByteOrder
import SlideDeck.Proofs.Theme.Assignment

/-! Which of the sources of settings counts. Flags count more than the file and the file more than
the defaults; what is said of a single slide counts more than what is said of the deck. -/

namespace SlideDeck

namespace Assignment

section

variable {ε : Type} {step : Assignment → ε → Except Fault Assignment}
  {read : ε → Except Fault (Nat × String)}

theorem foldlM_set (hstep : ∀ a x, step a x = (read x).map fun e => a.set e.1 e.2) (xs : List ε)
    (a : Assignment) :
    xs.foldlM step a = (xs.mapM read).map fun es => es.foldl (fun a e => a.set e.1 e.2) a := by
  induction xs generalizing a with
  | nil => rfl
  | cons x xs ih =>
    rw [List.foldlM_cons, hstep, List.mapM_cons]
    cases read x with
    | error fault => rfl
    | ok e =>
      change xs.foldlM step (a.set e.1 e.2) = _
      rw [ih]
      cases xs.mapM read <;> rfl

theorem foldlM_set_eq_ok_iff (hstep : ∀ a x, step a x = (read x).map fun e => a.set e.1 e.2)
    {xs : List ε} {a a' : Assignment} :
    xs.foldlM step a = .ok a' ↔ (∀ x ∈ xs, ∃ e, read x = .ok e) ∧
      a' = (xs.filterMap fun x => (read x).toOption).foldl (fun a e => a.set e.1 e.2) a := by
  rw [foldlM_set hstep, Reading.map_eq_ok_iff]
  constructor
  · rintro ⟨es, hes, rfl⟩
    obtain ⟨hall, rfl⟩ := Reading.mapM_eq_ok_iff.1 hes
    exact ⟨hall, rfl⟩
  · rintro ⟨hall, rfl⟩
    exact ⟨_, Reading.mapM_eq_ok_iff.2 ⟨hall, rfl⟩, rfl⟩

end

end Assignment

/-- What becomes of settings if something counts more than they do: it may have themes for the deck
and for single slides, and texts for the canvas. -/
structure Overrides (theme : Option String) (themeOf : Nat → Option String)
    (aspect orientation mode : Option String) (s s' : Settings) : Prop where
  deck : s'.assignment.deck = theme.getD s.assignment.deck
  slides : ∀ i : Nat, s'.assignment.slides[i]? = (themeOf i).or s.assignment.slides[i]?
  aspectRatio : SettingsFile.orRead AspectRatio.read s.canvas.aspectRatio aspect =
    .ok s'.canvas.aspectRatio
  orientation : SettingsFile.orRead Orientation.read s.canvas.orientation orientation =
    .ok s'.canvas.orientation
  mode : SettingsFile.orRead RenderMode.read s.canvas.mode mode = .ok s'.canvas.mode

namespace Overrides

variable {theme theme' : Option String} {themeOf themeOf' : Nat → Option String}
  {aspect orientation mode aspect' orientation' mode' : Option String} {s s' s'' : Settings}

theorem trans (h : Overrides theme themeOf aspect orientation mode s s')
    (h' : Overrides theme' themeOf' aspect' orientation' mode' s' s'') :
    Overrides (theme'.or theme) (fun i => (themeOf' i).or (themeOf i)) (aspect'.or aspect)
      (orientation'.or orientation) (mode'.or mode) s s'' where
  deck := by rw [h'.deck, h.deck, Option.getD_or]
  slides i := by rw [h'.slides, h.slides, Option.or_assoc]
  aspectRatio := SettingsFile.orRead_or h.aspectRatio h'.aspectRatio
  orientation := SettingsFile.orRead_or h.orientation h'.orientation
  mode := SettingsFile.orRead_or h.mode h'.mode

theorem idFor (h : Overrides theme themeOf aspect orientation mode s s')
    (hslides : s.assignment.slides = ∅) (i : Nat) :
    s'.assignment.idFor i = ((themeOf i).or theme).getD s.assignment.deck := by
  rw [Assignment.idFor, h.slides, h.deck, hslides, Std.ExtTreeMap.getElem?_empty, Option.or_none,
    Option.getD_or]

end Overrides

/-! ## Files -/

namespace SettingsFile

/-- The theme id that a file has for a slide. Of the keys that denote the slide the last one in the
order of the bytes counts, and of its entries the last one. -/
def themeOf? (entries : List (String × String)) (slide : Nat) : Option String :=
  (((entries.map Prod.fst).filter fun key => (readIndex key).toOption = some slide).argmax
    Text.bytes).bind (latest? entries)

section

variable {entries : List (String × String)}

theorem mem_inOrder {key id : String} :
    (key, id) ∈ inOrder entries ↔ latest? entries key = some id := by
  rw [inOrder, Std.ExtTreeMap.mem_toList_iff_getElem?_eq_some, getElem?_foldl_insert,
    Std.ExtTreeMap.getElem?_empty, Option.or_none]

theorem pairwise_inOrder (entries : List (String × String)) :
    (inOrder entries).Pairwise fun a b => a.1 < b.1 :=
  Std.ExtTreeMap.ordered_keys_toList.imp compare_lt_iff_lt.1

theorem inOrder_shuffled {entries' : List (String × String)}
    (h : Shuffled Prod.fst entries entries') : inOrder entries = inOrder entries' := by
  rw [inOrder, inOrder, Std.ExtTreeMap.toList_inj]
  refine Std.ExtTreeMap.ext_getElem? fun key => ?_
  rw [getElem?_foldl_insert, getElem?_foldl_insert, h.latest?_eq]

theorem themeOf?_eq (entries : List (String × String)) (slide : Nat) :
    themeOf? entries slide =
      (((inOrder entries).filter fun e => (readIndex e.1).toOption = some slide).getLast?).map
        Prod.snd := by
  have hkeys (key : String) :
      (∃ id, (key, id) ∈ (inOrder entries).filter fun e => (readIndex e.1).toOption = some slide) ↔
        key ∈ (entries.map Prod.fst).filter fun key => (readIndex key).toOption = some slide := by
    rw [List.mem_filter, ← exists_latest?_iff, ← exists_and_right]
    exact exists_congr fun id => by rw [List.mem_filter, mem_inOrder]
  cases hlast : ((inOrder entries).filter fun e =>
      (readIndex e.1).toOption = some slide).getLast? with
  | none =>
    have hnone : ((entries.map Prod.fst).filter fun key =>
        (readIndex key).toOption = some slide) = [] := by
      refine List.eq_nil_iff_forall_not_mem.2 fun key hkey => ?_
      obtain ⟨id, hid⟩ := (hkeys key).2 hkey
      rw [List.getLast?_eq_none_iff.1 hlast] at hid
      exact List.not_mem_nil hid
    rw [themeOf?, hnone]
    rfl
  | some e =>
    obtain ⟨front, hfront⟩ := List.getLast?_eq_some_iff.1 hlast
    have hmem := List.mem_of_getLast? hlast
    have hsorted := (pairwise_inOrder entries).filter
      (p := fun e => (readIndex e.1).toOption = some slide)
    have hlargest : ((entries.map Prod.fst).filter fun key =>
        (readIndex key).toOption = some slide).argmax Text.bytes = some e.1 := by
      refine Text.argmax_bytes_eq_some_iff.2 ⟨(hkeys e.1).1 ⟨e.2, hmem⟩, fun key hkey => ?_⟩
      obtain ⟨id, hid⟩ := (hkeys key).2 hkey
      rw [hfront] at hsorted hid
      rcases List.mem_append.1 hid with hbefore | hid
      · exact ((List.pairwise_append.1 hsorted).2.2 _ hbefore e (List.mem_singleton_self e)).le
      · rw [← List.mem_singleton.1 hid]
    rw [themeOf?, hlargest, Option.bind_some, mem_inOrder.1 (List.mem_filter.1 hmem).1,
      Option.map_some]

theorem latest?_readEntries (entries : List (String × String)) (slide : Nat) :
    latest? (entries.filterMap fun e => ((readIndex e.1).map fun i => (i, e.2)).toOption) slide =
      ((entries.filter fun e => (readIndex e.1).toOption = some slide).getLast?).map Prod.snd := by
  have hfilter : ((entries.filterMap fun e => ((readIndex e.1).map fun i => (i, e.2)).toOption).filter
        fun e => e.1 = slide) =
      (entries.filter fun e => (readIndex e.1).toOption = some slide).map fun e => (slide, e.2) := by
    have hmap (e : String × String) : ((readIndex e.1).map fun i => (i, e.2)).toOption =
        (readIndex e.1).toOption.map fun i => (i, e.2) := by
      cases readIndex e.1 <;> rfl
    simp only [hmap]
    induction entries with
    | nil => rfl
    | cons e entries ih =>
      cases hi : (readIndex e.1).toOption with
      | none => simp [hi, ih]
      | some i => by_cases h : i = slide <;> simp [hi, ih, h]
  rw [latest?, hfilter, List.getLast?_map, Option.map_map]
  rfl

theorem slides_of_assignSlides {a a' : Assignment} (h : assignSlides a entries = .ok a') :
    a'.deck = a.deck ∧ ∀ i : Nat, a'.slides[i]? = (themeOf? entries i).or a.slides[i]? := by
  have hstep (a : Assignment) (e : String × String) :
      (do return a.set (← readIndex e.1) e.2 : Except Fault Assignment) =
        ((readIndex e.1).map fun i => (i, e.2)).map fun e => a.set e.1 e.2 := by
    cases readIndex e.1 <;> rfl
  obtain ⟨-, rfl⟩ := (Assignment.foldlM_set_eq_ok_iff hstep).1 h
  refine ⟨by rw [Assignment.foldl_set], fun i => ?_⟩
  rw [Assignment.getElem?_foldl_set, themeOf?_eq, latest?_readEntries]

theorem assignSlides_shuffled {entries' : List (String × String)}
    (h : Shuffled Prod.fst entries entries') (a : Assignment) :
    assignSlides a entries = assignSlides a entries' := by
  rw [assignSlides, inOrder_shuffled h, assignSlides]

end

theorem overrides_of_apply {f : SettingsFile} {s s' : Settings} (h : f.apply s = .ok s') :
    Overrides f.theme (themeOf? (f.slideThemes.getD [])) f.aspectRatio f.orientation f.mode s s' := by
  obtain ⟨a, c, ha, hc, rfl⟩ := apply_eq_ok_iff.1 h
  obtain ⟨hratio, horientation, hmode⟩ := canvas_eq_ok_iff.1 hc
  obtain ⟨hdeck, hslides⟩ := slides_of_assignSlides ha
  exact ⟨hdeck, hslides, hratio, horientation, hmode⟩

theorem Rereads.apply_eq {f f' : SettingsFile} (h : Rereads f f') (s : Settings) :
    f'.apply s = f.apply s := by
  obtain ⟨entries, entries', hf, hshuffled, rfl⟩ := h
  have hassign : assign { f with slideThemes := some entries' } s = f.assign s := by
    rw [assign, assign, hf, Option.getD_some, Option.getD_some, assignSlides_shuffled hshuffled]
  rw [apply, hassign]
  rfl

end SettingsFile

theorem Settings.read_reordered {text text' : String} {t t' : Json5.Term}
    (ht : Json5.parse? text = some t) (ht' : Json5.parse? text' = some t')
    (h : SettingsFile.Reordered t t') {s : Settings} (hread : Settings.read text = .ok s) :
    Settings.read text' = .ok s := by
  obtain ⟨f, hf, happly⟩ := Settings.read_eq_ok_iff.1 hread
  have hfile : Reading.settingsFile t = .ok f := by
    rw [SettingsFile.read, ht] at hf
    cases hfile : Reading.settingsFile t with
    | error misfit => simp [hfile] at hf
    | ok f' => simpa [hfile] using hf
  obtain ⟨f', hf', hrereads⟩ := SettingsFile.read_reordered h hfile
  refine Settings.read_eq_ok_iff.2 ⟨f', ?_, (hrereads.apply_eq .default).trans happly⟩
  simp only [SettingsFile.read, ht', hf']

/-! ## Flags -/

namespace CommandLine.Flags

def themesOf (flags : List String) : List (Nat × String) :=
  flags.filterMap fun flag => (readSlideTheme flag).toOption

theorem assign_eq_ok_iff {flags : List String} {a a' : Assignment} :
    flags.foldlM (fun a flag => do
        let (i, id) ← readSlideTheme flag
        return a.set i id) a = .ok a' ↔
      (∀ flag ∈ flags, ∃ e, readSlideTheme flag = .ok e) ∧
        a' = (themesOf flags).foldl (fun a e => a.set e.1 e.2) a := by
  refine Assignment.foldlM_set_eq_ok_iff fun a flag => ?_
  cases readSlideTheme flag <;> rfl

def slideOf (flag : String) : Option Nat := (readSlideTheme flag).toOption.map Prod.fst

theorem overrides_of_apply {f : Flags} {s s' : Settings} (h : f.apply s = .ok s') :
    Overrides f.theme (latest? (themesOf f.slideThemes)) f.aspect f.orientation f.mode s s' := by
  obtain ⟨a, c, ha, hratio, horientation, hmode, rfl⟩ := apply_eq_ok_iff.1 h
  obtain ⟨-, rfl⟩ := assign_eq_ok_iff.1 ha
  refine ⟨?_, fun i => ?_, hratio, horientation, hmode⟩
  · rw [Assignment.foldl_set]
  · rw [Assignment.getElem?_foldl_set]

theorem apply_shuffled {f : Flags} {s s' : Settings} {flags : List String}
    (h : Shuffled slideOf f.slideThemes flags) (happly : f.apply s = .ok s') :
    { f with slideThemes := flags }.apply s = .ok s' := by
  obtain ⟨a, c, ha, hstyle⟩ := apply_eq_ok_iff.1 happly
  obtain ⟨hall, ha⟩ := assign_eq_ok_iff.1 ha
  refine apply_eq_ok_iff.2 ⟨a, c, assign_eq_ok_iff.2 ⟨fun flag hflag => ?_, ?_⟩, hstyle⟩
  · exact hall flag (h.1.mem_iff.2 hflag)
  · rw [ha]
    refine Assignment.eq_of_slides (by rw [Assignment.foldl_set, Assignment.foldl_set]) fun i => ?_
    have hthemes : Shuffled Prod.fst (themesOf f.slideThemes) (themesOf flags) := h.filterMap
    rw [Assignment.getElem?_foldl_set, Assignment.getElem?_foldl_set, hthemes.latest?_eq]

end CommandLine.Flags

/-- A slide has the theme of the last flag for it, or else the one that the file has for it; then
come the flag and the file's theme for the deck. The canvas follows the flags, then the file. In which
order a file names slides makes no difference, nor does the order of flags for different slides. -/
theorem settings_precedence {text : String} {s₀ s : Settings} {flags : CommandLine.Flags}
    (hfile : Settings.read text = .ok s₀) (hflags : flags.apply s₀ = .ok s) :
    (∃ f, SettingsFile.read text = .ok f ∧
        (∀ i, s.assignment.idFor i =
          ((((latest? (CommandLine.Flags.themesOf flags.slideThemes) i).or
            (SettingsFile.themeOf? (f.slideThemes.getD []) i)).or flags.theme).or f.theme).getD
              "default") ∧
        SettingsFile.orRead AspectRatio.read .wide (flags.aspect.or f.aspectRatio) =
          .ok s.canvas.aspectRatio ∧
        SettingsFile.orRead Orientation.read .landscape (flags.orientation.or f.orientation) =
          .ok s.canvas.orientation ∧
        SettingsFile.orRead RenderMode.read .thumbnail (flags.mode.or f.mode) =
          .ok s.canvas.mode) ∧
      (∀ t text' t', Json5.parse? text = some t → Json5.parse? text' = some t' →
        SettingsFile.Reordered t t' → Settings.read text' = .ok s₀) ∧
      ∀ slideThemes, Shuffled CommandLine.Flags.slideOf flags.slideThemes slideThemes →
        { flags with slideThemes }.apply s₀ = .ok s := by
  refine ⟨?_, fun t text' t' ht ht' h => Settings.read_reordered ht ht' h hfile,
    fun slideThemes h => CommandLine.Flags.apply_shuffled h hflags⟩
  obtain ⟨f, hf, happly⟩ := Settings.read_eq_ok_iff.1 hfile
  have h := (SettingsFile.overrides_of_apply happly).trans
    (CommandLine.Flags.overrides_of_apply hflags)
  refine ⟨f, hf, fun i => ?_, h.aspectRatio, h.orientation, h.mode⟩
  rw [h.idFor rfl, ← Option.or_assoc]
  rfl

/-- A file in which two keys denote slide 1, and flags that may as well stand the other way round.
The orientation comes from both, the shape from the flags alone, and the mode from the file alone. -/
theorem flag_counts_before_file :
    let text := "\x7b\"theme\": \"ink\", \"orientation\": \"landscape\", " ++
      "\"mode\": \"fullscreen\", " ++
      "\"slideThemes\": \x7b\"1\": \"late\", \"01\": \"early\", \" 2\": \"two\"\x7d\x7d"
    let flags : CommandLine.Flags :=
      { theme := some "paper", slideThemes := ["2=red", "3 = blue"], aspect := some "4:3",
        orientation := some "portrait" }
    ∃ s₀ s, Settings.read text = .ok s₀ ∧ flags.apply s₀ = .ok s ∧
      (List.range 5).map s.assignment.idFor = ["paper", "late", "red", "blue", "paper"] ∧
      s.canvas = ⟨.standard, .portrait, .fullscreen⟩ ∧
      { flags with slideThemes := ["3 = blue", "2=red"] }.apply s₀ = .ok s := by
  intro text flags
  have hread : (SettingsFile.read text).toOption.map (fun f => (f.theme, f.slideThemes, f.mode)) =
      some (some "ink", some [("1", "late"), ("01", "early"), (" 2", "two")],
        some "fullscreen") := by decide +kernel
  have haccepted : (Settings.read text).toOption.isSome = true := by decide +kernel
  obtain ⟨s₀, hs₀⟩ : ∃ s₀, Settings.read text = .ok s₀ := by
    cases hs₀ : Settings.read text with
    | error fault => simp [hs₀, Except.toOption] at haccepted
    | ok s₀ => exact ⟨s₀, rfl⟩
  have hflags : ∀ flag ∈ flags.slideThemes, ∃ e, readSlideTheme flag = .ok e := by
    simp only [flags, List.forall_mem_cons]
    exact ⟨⟨_, rfl⟩, ⟨_, rfl⟩, by simp⟩
  obtain ⟨s, hs⟩ : ∃ s, flags.apply s₀ = .ok s :=
    ⟨_, CommandLine.Flags.apply_eq_ok_iff.2 ⟨_, ⟨.standard, .portrait, s₀.canvas.mode⟩,
      CommandLine.Flags.assign_eq_ok_iff.2 ⟨hflags, rfl⟩, rfl, rfl, rfl, rfl⟩⟩
  obtain ⟨⟨f, hf, hid, hratio, horientation, hmode⟩, -, hshuffled⟩ := settings_precedence hs₀ hs
  rw [hf, Except.toOption, Option.map_some, Option.some_inj, Prod.mk.injEq, Prod.mk.injEq] at hread
  obtain ⟨htheme, hthemes, hfullscreen⟩ := hread
  rw [htheme, hthemes] at hid
  rw [hfullscreen] at hmode
  refine ⟨s₀, s, hs₀, hs, ?_, ?_, hshuffled _ (shuffled_of_perm (.swap _ _ _) (by decide))⟩
  · have hids : (List.range 5).map s.assignment.idFor = _ := List.map_congr_left fun i _ => hid i
    rw [hids]
    decide +kernel
  · have hratio : AspectRatio.standard = s.canvas.aspectRatio := Except.ok.inj hratio
    have horientation : Orientation.portrait = s.canvas.orientation := Except.ok.inj horientation
    have hmode : RenderMode.fullscreen = s.canvas.mode := Except.ok.inj hmode
    rw [hratio, horientation, hmode]

end SlideDeck
