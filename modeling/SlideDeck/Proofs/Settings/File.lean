import SlideDeck.CommandLine.Program

/-! What a file of settings and the flags of a command line make of settings, if they are accepted. -/

namespace SlideDeck

theorem Settings.read_eq_ok_iff {text : String} {s : Settings} :
    Settings.read text = .ok s ↔
      ∃ f, SettingsFile.read text = .ok f ∧ f.apply .default = .ok s := by
  rw [Settings.read]
  cases hf : SettingsFile.read text with
  | error fault => simp [bind, Except.bind]
  | ok f => cases hs : f.apply .default <;> simp [bind, Except.bind, hs]

namespace SettingsFile

/-- A file is accepted if its slides have indices and its canvas is known; then it says what it
names and leaves the rest. -/
theorem apply_eq_ok_iff {f : SettingsFile} {s s' : Settings} :
    f.apply s = .ok s' ↔
      ∃ a c, assignSlides { s.assignment with deck := f.theme.getD s.assignment.deck }
            (f.slideThemes.getD []) = .ok a ∧
        f.canvas s.canvas = .ok c ∧
        s' = { registry := (f.themes.getD []).foldl (fun r e => r.insert e.1 e.2) s.registry
               assignment := a
               canvas := c
               layout := f.layout s.layout
               drawing := f.drawing s.drawing
               picture := (f.picture.map fun p => p.apply s.picture).getD s.picture } := by
  rw [apply, assign]
  cases ha : assignSlides { s.assignment with deck := f.theme.getD s.assignment.deck }
      (f.slideThemes.getD []) with
  | error fault => simp [bind, Except.bind]
  | ok a =>
    cases hc : f.canvas s.canvas with
    | error fault => simp [bind, Except.bind, style, pure, Except.pure, hc]
    | ok c => simp [bind, Except.bind, style, pure, Except.pure, hc, eq_comm]

theorem canvas_eq_ok_iff {f : SettingsFile} {c c' : Canvas} :
    f.canvas c = .ok c' ↔
      orRead AspectRatio.read c.aspectRatio f.aspectRatio = .ok c'.aspectRatio ∧
        orRead Orientation.read c.orientation f.orientation = .ok c'.orientation ∧
        orRead RenderMode.read c.mode f.mode = .ok c'.mode := by
  obtain ⟨ratio, orientation, mode⟩ := c'
  rw [canvas]
  cases orRead AspectRatio.read c.aspectRatio f.aspectRatio <;>
    cases orRead Orientation.read c.orientation f.orientation <;>
    cases orRead RenderMode.read c.mode f.mode <;>
    simp [bind, Except.bind, pure, Except.pure]

theorem orRead_or {α : Type} {read : String → Except Fault α} {a b c : α} {text text' : Option String}
    (h : orRead read a text = .ok b) (h' : orRead read b text' = .ok c) :
    orRead read a (text'.or text) = .ok c := by
  cases text' with
  | none =>
    obtain rfl : b = c := by simpa [orRead] using h'
    exact h
  | some t => exact h'

end SettingsFile

namespace CommandLine.Flags

theorem apply_eq_ok_iff {f : Flags} {s s' : Settings} :
    f.apply s = .ok s' ↔
      ∃ a c, f.slideThemes.foldlM (fun a flag => do
            let (i, id) ← readSlideTheme flag
            return a.set i id) { s.assignment with deck := f.theme.getD s.assignment.deck } = .ok a ∧
        SettingsFile.orRead AspectRatio.read s.canvas.aspectRatio f.aspect = .ok c.aspectRatio ∧
        SettingsFile.orRead Orientation.read s.canvas.orientation f.orientation = .ok c.orientation ∧
        SettingsFile.orRead RenderMode.read s.canvas.mode f.mode = .ok c.mode ∧
        s' = { s with
          assignment := a
          canvas := c
          picture := { s.picture with
            width := f.width.getD s.picture.width
            height := f.height.getD s.picture.height } } := by
  rw [apply, assign]
  cases ha : f.slideThemes.foldlM (fun a flag => do
      let (i, id) ← readSlideTheme flag
      return a.set i id) { s.assignment with deck := f.theme.getD s.assignment.deck } with
  | error fault => simp [bind, Except.bind]
  | ok a =>
    cases hratio : SettingsFile.orRead AspectRatio.read s.canvas.aspectRatio f.aspect with
    | error fault => simp [bind, Except.bind, pure, Except.pure, style, hratio]
    | ok ratio =>
      cases horientation : SettingsFile.orRead Orientation.read s.canvas.orientation f.orientation with
      | error fault => simp [bind, Except.bind, pure, Except.pure, style, hratio, horientation]
      | ok orientation =>
        cases hmode : SettingsFile.orRead RenderMode.read s.canvas.mode f.mode with
        | error fault =>
          simp [bind, Except.bind, pure, Except.pure, style, hratio, horientation, hmode]
        | ok mode =>
          simp only [bind, Except.bind, pure, Except.pure, style, hratio, horientation, hmode,
            Except.ok.injEq, exists_and_left, exists_eq_left']
          constructor
          · rintro rfl
            exact ⟨⟨ratio, orientation, mode⟩, rfl, rfl, rfl, rfl⟩
          · rintro ⟨c, rfl, rfl, rfl, rfl⟩
            rfl

end CommandLine.Flags

end SlideDeck
