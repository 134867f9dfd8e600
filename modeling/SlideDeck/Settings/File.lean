import SlideDeck.Json5.Reading
import SlideDeck.Json5.Syntax
import SlideDeck.Reading.Theme
import SlideDeck.Settings

/-! Files of settings. A file says what differs from the default settings; everything in it is
optional. Themes come first, then which slides have them, then the rest. -/

namespace SlideDeck

inductive SettingsFault
  | notJson5
  | misfit (m : Reading.Misfit)
  | invalid (fault : Fault)

def SettingsFault.message : SettingsFault → String
  | .notJson5 => "config error: json5 syntax"
  | .misfit m => "config error: " ++ m.message Json5.wording
  | .invalid fault => fault.message

structure PictureFile where
  width : Option Float32
  height : Option Float32
  fontFamily : Option String

structure SettingsFile where
  theme : Option String
  slideThemes : Option (List (String × String))
  aspectRatio : Option String
  orientation : Option String
  mode : Option String
  footerCaption : Option String
  lineHeight : Option Float32
  paragraphGap : Option Float32
  headingScale : Option (List Float32)
  bulletGlyph : Option String
  wrapText : Option Bool
  idPrefix : Option String
  bulletPreset : Option String
  themes : Option (List (String × Theme))
  picture : Option PictureFile

namespace Reading

variable {τ : Type} [Source τ]

def pictureFile : Reader τ PictureFile :=
  record "struct RenderConfigFile"
    (PictureFile.mk <$> .option "width" single <*> .option "height" single <*>
      .option "fontFamily" text)

def settingsFields : Fields τ SettingsFile :=
  SettingsFile.mk <$> .option "theme" text <*> .option "slideThemes" (members text) <*>
    .option "aspectRatio" text <*> .option "orientation" text <*> .option "mode" text <*>
    .option "footerCaption" text <*> .option "lineHeight" single <*>
    .option "paragraphGap" single <*> .option "headingScale" (list single) <*>
    .option "bulletGlyph" text <*> .option "wrapText" flag <*> .option "idPrefix" text <*>
    .option "bulletPreset" text <*> .option "themes" (members theme) <*>
    .option "render" pictureFile

def settingsFile : Reader τ SettingsFile := record "struct ConfigFile" settingsFields

end Reading

/-- The index of a slide as text; white space around it is allowed. -/
def readIndex (s : String) : Except Fault Nat :=
  match Text.index? (Text.trimmed s) with
  | some i => .ok i
  | none => .error (.slideTheme s)

def readSlideTheme (s : String) : Except Fault (Nat × String) :=
  match s.toList.span (· != '=') with
  | (_, []) => .error (.slideTheme s)
  | (index, _ :: rest) =>
    let id := Text.trim rest
    if id.isEmpty then .error (.slideTheme s)
    else return (← readIndex (.ofList index), .ofList id)

namespace PictureFile

def apply (f : PictureFile) (s : PictureStyle) : PictureStyle where
  width := f.width.getD s.width
  height := f.height.getD s.height
  fontFamily := f.fontFamily.getD s.fontFamily

end PictureFile

namespace SettingsFile

def read (s : String) : Except SettingsFault SettingsFile :=
  match Json5.parse? s with
  | none => .error .notJson5
  | some term =>
    match Reading.settingsFile term with
    | .ok f => .ok f
    | .error m => .error (.misfit m)

/-- The entries in the order of their keys; of equal keys the last counts. -/
def inOrder (entries : List (String × String)) : List (String × String) :=
  (entries.foldl (fun m e => m.insert e.1 e.2) (∅ : Std.ExtTreeMap String String)).toList

def assignSlides (a : Assignment) (entries : List (String × String)) : Except Fault Assignment :=
  (inOrder entries).foldlM (fun a e => return a.set (← readIndex e.1) e.2) a

def assign (f : SettingsFile) (s : Settings) : Except Fault Settings := do
  let a := { s.assignment with deck := f.theme.getD s.assignment.deck }
  return { s with
    registry := (f.themes.getD []).foldl (fun r e => r.insert e.1 e.2) s.registry
    assignment := ← assignSlides a (f.slideThemes.getD []) }

def orRead {α : Type} (read : String → Except Fault α) (a : α) : Option String → Except Fault α
  | some s => read s
  | none => .ok a

def canvas (f : SettingsFile) (c : Canvas) : Except Fault Canvas := do
  return {
    aspectRatio := ← orRead AspectRatio.read c.aspectRatio f.aspectRatio
    orientation := ← orRead Orientation.read c.orientation f.orientation
    mode := ← orRead RenderMode.read c.mode f.mode }

def layout (f : SettingsFile) (s : LayoutStyle) : LayoutStyle :=
  { s with
    footerCaption := f.footerCaption.getD s.footerCaption
    lineHeight := f.lineHeight.getD s.lineHeight
    paragraphGap := f.paragraphGap.getD s.paragraphGap
    headingScale := s.headingScale.mapIdx fun i x => (f.headingScale.getD []).getD i x
    bulletGlyph := f.bulletGlyph.getD s.bulletGlyph
    wrapText := f.wrapText.getD s.wrapText }

def drawing (f : SettingsFile) (s : DrawingStyle) : DrawingStyle where
  idPrefix := f.idPrefix.getD s.idPrefix
  bulletPreset := f.bulletPreset.getD s.bulletPreset

def style (f : SettingsFile) (s : Settings) : Except Fault Settings := do
  return { s with
    canvas := ← f.canvas s.canvas
    layout := f.layout s.layout
    drawing := f.drawing s.drawing
    picture := (f.picture.map fun p => p.apply s.picture).getD s.picture }

def apply (f : SettingsFile) (s : Settings) : Except Fault Settings := do
  f.style (← f.assign s)

end SettingsFile

def Settings.read (text : String) : Except SettingsFault Settings := do
  match (← SettingsFile.read text).apply .default with
  | .ok s => .ok s
  | .error fault => .error (.invalid fault)

def Settings.ofOptions (options : Option String) : Except SettingsFault Settings :=
  match options with
  | some text => if Text.isAllBlank text then .ok .default else Settings.read text
  | none => .ok .default

end SlideDeck
