import SlideDeck.Proofs.Json5.Quoted
import SlideDeck.Proofs.Reading.Records
import SlideDeck.Proofs.Settings.File
import SlideDeck.Service

/-! Options in JSON. -/

namespace SlideDeck

open Json5 Reading

def SettingsFile.ofCaption (caption : String) : SettingsFile where
  theme := none
  slideThemes := none
  aspectRatio := none
  orientation := none
  mode := none
  footerCaption := some caption
  lineHeight := none
  paragraphGap := none
  headingScale := none
  bulletGlyph := none
  wrapText := none
  idPrefix := none
  bulletPreset := none
  themes := none
  picture := none

theorem text_of_textOf {ps : List Part} {s : String} (h : textOf ps = .ok s) :
    text (Term.text ps) = .ok s := by
  have hlook : Source.look (Term.text ps) = .ok (.text s) := by
    change View.text <$> textOf ps = _
    rw [h]
    rfl
  rw [text, hlook]
  rfl

theorem settingsFile_caption {k ps : List Part} {s : String} (hk : textOf k = .ok "footerCaption")
    (hps : textOf ps = .ok s) :
    Reading.settingsFile (Term.record [(k, .text ps)]) = .ok (.ofCaption s) := by
  have hrecord : Reading.settingsFile (Term.record [(k, .text ps)]) =
      settingsFields.ofMembers [(textOf k, Term.text ps)] := rfl
  have hcaption : optional text (Term.text ps) = .ok (some s) := by
    change some <$> text (Term.text ps) = _
    rw [text_of_textOf hps]
    rfl
  have habsent {α : Type} (name : String) (r : Reader Term α) (h : name ≠ "footerCaption") :
      (Fields.option name r).Gives (.ofNamed [("footerCaption", Term.text ps)]) none :=
    Fields.gives_absent (by simpa using h) _ _
  have hpresent : (Fields.option "footerCaption" text).Gives
      (.ofNamed [("footerCaption", Term.text ps)]) (some s) :=
    Fields.gives_field (by simp) List.mem_cons_self hcaption _
  have hgives : settingsFields.Gives (.ofNamed [("footerCaption", Term.text ps)]) (.ofCaption s) := by
    iterate 9 refine .seq ?_ (habsent _ _ (by decide))
    refine .seq ?_ hpresent
    iterate 4 refine .seq ?_ (habsent _ _ (by decide))
    exact .map (habsent _ _ (by decide)) _
  have hknown : "footerCaption" ∈ (settingsFields : Fields Term SettingsFile).names := by decide
  rw [hrecord, hk]
  exact Fields.ofMembers_of_gives hgives (by simpa using hknown)

theorem SettingsFile.apply_ofCaption (s : String) :
    (SettingsFile.ofCaption s).apply .default =
      .ok { Settings.default with layout := { LayoutStyle.default with footerCaption := s } } := by
  refine apply_eq_ok_iff.2 ⟨.default, .default, rfl, rfl, ?_⟩
  simp [ofCaption, layout, drawing, Settings.default, LayoutStyle.default]

def captionOptions (caption : String) : String := recordOfText "footerCaption" caption

section Caption

variable {caption : String}

theorem ofOptions_captionOptions :
    Settings.ofOptions (some (captionOptions caption)) = Settings.read (captionOptions caption) := by
  have hblank : Text.isAllBlank (captionOptions caption) = false := by
    rw [Text.isAllBlank, captionOptions, recordOfText, String.toList_ofList, List.all_cons]
    rfl
  rw [Settings.ofOptions, hblank, if_neg Bool.false_ne_true]

theorem ofOptions_of_isSeparator (h : caption.toList.any isSeparator = true) :
    Settings.ofOptions (some (captionOptions caption)) = .error .notJson5 := by
  have hread : SettingsFile.read (captionOptions caption) = .error .notJson5 := by
    rw [SettingsFile.read, captionOptions, parse?_recordOfText_eq_none (by decide) h]
  rw [ofOptions_captionOptions, Settings.read, hread]
  rfl

theorem ofOptions_of_not_isSeparator (h : caption.toList.any isSeparator = false) :
    Settings.ofOptions (some (captionOptions caption)) =
      .ok { Settings.default with
        layout := { LayoutStyle.default with footerCaption := caption } } := by
  obtain ⟨k, ps, hparse, hk, hps⟩ :=
    parse?_recordOfText (by decide : "footerCaption".toList.any isSeparator = false) h
  have hread : SettingsFile.read (captionOptions caption) = .ok (.ofCaption caption) := by
    simp only [SettingsFile.read, captionOptions, hparse, settingsFile_caption hk hps]
  rw [ofOptions_captionOptions]
  exact Settings.read_eq_ok_iff.2 ⟨_, hread, SettingsFile.apply_ofCaption caption⟩

end Caption

/-- Options in JSON give the default settings with the caption that they say, for every caption
without a separator of lines or of paragraphs. With such a separator they cannot be read. -/
theorem caption_options_read (caption : String) :
    Settings.ofOptions (some (captionOptions caption)) =
      if caption.toList.any isSeparator then .error .notJson5
      else .ok { Settings.default with
        layout := { LayoutStyle.default with footerCaption := caption } } := by
  cases h : caption.toList.any isSeparator with
  | true => exact ofOptions_of_isSeparator h
  | false => exact ofOptions_of_not_isSeparator h

example : captionOptions "a \"b\"\n" = "\x7b\"footerCaption\": \"a \\\"b\\\"\\n\"\x7d" := by decide

/-- A separator of lines makes a caption one that options in JSON cannot say. -/
theorem separator_caption_refused :
    ¬∀ caption : String, Settings.ofOptions (some (captionOptions caption)) =
      .ok { Settings.default with
        layout := { LayoutStyle.default with footerCaption := caption } } := by
  intro h
  have hrefused := ofOptions_of_isSeparator (by decide : "a\u2028b".toList.any isSeparator = true)
  rw [h] at hrefused
  cases hrefused

end SlideDeck
