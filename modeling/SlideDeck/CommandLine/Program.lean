import SlideDeck.CommandLine.Flags
import SlideDeck.CommandLine.Path
import SlideDeck.Drawing.Slide
import SlideDeck.Json.Drawing
import SlideDeck.Json.Layout
import SlideDeck.Json.Printer
import SlideDeck.Settings.File
import SlideDeck.Svg.Bitmap

/-! The program: settings from a file and from flags, a deck from a file or the input, and the
output in the format asked for. What it does to files goes through a host. -/

namespace SlideDeck.CommandLine

inductive Content
  | text (s : String)
  | picture (width height : Nat)
deriving DecidableEq, Repr

inductive HostFault
  | noEntry
  | notDirectory
  | isDirectory
  | nameTooLong
  | other (message : String)
deriving DecidableEq, Repr

def HostFault.message : HostFault → String
  | .noEntry => "No such file or directory (os error 2)"
  | .notDirectory => "Not a directory (os error 20)"
  | .isDirectory => "Is a directory (os error 21)"
  | .nameTooLong => "File name too long (os error 36)"
  | .other message => message

structure Host (m : Type → Type) where
  readFile : String → m (Except HostFault String)
  readInput : m (Except HostFault String)
  isDirectory : String → m Bool
  write : String → Content → m (Except HostFault Unit)

inductive Failure
  | settings (fault : SettingsFault)
  | bitmap (fault : Svg.BitmapFault)
  | noPictureFile
  | noDeckFile
  | host (fault : HostFault)

def Failure.message : Failure → String
  | .settings fault => fault.message
  | .bitmap fault => fault.message
  | .noPictureFile => "Output path required for png output"
  | .noDeckFile => "Output path required for a multi-slide deck"
  | .host fault => fault.message

structure Report where
  code : Nat
  output : String
  error : Option String
  warnings : Nat
deriving DecidableEq, Repr

/-! ## Settings from flags -/

namespace Flags

def assign (f : Flags) (s : Settings) : Except Fault Settings := do
  let a := { s.assignment with deck := f.theme.getD s.assignment.deck }
  return { s with
    assignment := ← f.slideThemes.foldlM (fun a flag => do
      let (i, id) ← readSlideTheme flag
      return a.set i id) a }

def style (f : Flags) (s : Settings) : Except Fault Settings := do
  return { s with
    canvas := {
      aspectRatio := ← SettingsFile.orRead AspectRatio.read s.canvas.aspectRatio f.aspect
      orientation := ← SettingsFile.orRead Orientation.read s.canvas.orientation f.orientation
      mode := ← SettingsFile.orRead RenderMode.read s.canvas.mode f.mode }
    picture := { s.picture with
      width := f.width.getD s.picture.width
      height := f.height.getD s.picture.height } }

def apply (f : Flags) (s : Settings) : Except Fault Settings := do f.style (← f.assign s)

end Flags

/-! ## Output -/

def themeListing (r : Registry) : String :=
  let padded (id : String) : String :=
    id ++ .ofList (List.replicate (16 - id.length) ' ')
  let entry (e : String × Theme) : String := "  " ++ padded e.1 ++ " " ++ e.2.name ++ "\n"
  String.join (r.byCategory.map fun g => g.1.label ++ "\n" ++ String.join (g.2.map entry))

def Format.suffix : Format → String
  | .svg => "svg"
  | .png => "png"
  | _ => "json"

/-- The files for `count` slides: in the directory `output`, or beside each other with names made
from that of `output`. -/
def slideFiles (output : String) (isDirectory : Bool) (format : Format) (count : Nat) :
    List String :=
  let path := Path.read output
  let (directory, stem) :=
    if isDirectory then (output, "slide") else (path.parent.text, path.stem?.getD "slide")
  (List.range count).map fun i =>
    Path.join directory (stem ++ "-" ++ Text.numeral (i + 1) ++ "." ++ format.suffix)

def shown (slide : Option Nat) (layouts : List Layout.Descriptor) :
    Except Fault (List Layout.Descriptor) :=
  match slide with
  | none => .ok layouts
  | some i =>
    match layouts[i]? with
    | some layout => .ok [layout]
    | none => .error (.noSlide i layouts.length)

def jsonOutput (format : Format) (doc : Document) (s : Settings) : Json :=
  match format with
  | .layout => (Layout.Overview.ofDocument doc s).toJson
  | .ops => Drawing.Op.dump doc.size (Drawing.document doc s)
  | .requests => Drawing.Request.batch (Drawing.Request.ofOps (Drawing.document doc s))
  | _ => doc.toJson

/-! ## Runs -/

abbrev Session (m : Type → Type) := ExceptT Failure (StateT Nat m)

section

variable {m : Type → Type} [Monad m]

def orFault {α : Type} (r : Except Fault α) : Session m α :=
  match r with
  | .ok a => pure a
  | .error fault => throw (.settings (.invalid fault))

def ask {α : Type} (x : m (Except HostFault α)) : Session m α := do
  match ← (x : StateT Nat m (Except HostFault α)) with
  | .ok a => pure a
  | .error fault => throw (.host fault)

def warn (s : Settings) : Session m Unit := modify (· + s.unknownThemes.length)

def loadSettings (host : Host m) (config : Option String) : Session m Settings :=
  match config with
  | none => pure .default
  | some path => do
    let text ← ask (host.readFile path)
    match SettingsFile.read text with
    | .error fault => throw (.settings fault)
    | .ok file => do
      let s ← orFault (file.assign .default)
      warn s
      orFault (file.style s)

def applyFlags (f : Flags) (s : Settings) : Session m Settings := do
  let s ← orFault (f.assign s)
  warn s
  orFault (f.style s)

def loadDeck (host : Host m) (input : Option String) : Session m String :=
  match input with
  | some path =>
    if Path.read path = Path.read "-" then ask host.readInput else ask (host.readFile path)
  | none => ask host.readInput

def deliver (host : Host m) (output : Option String) (text : String) : Session m String :=
  match output with
  | some path => do
    ask (host.write path (.text text))
    return ""
  | none => return text

def deliverPicture (host : Host m) (flags : Flags) (s : Settings) (output : Option String)
    (d : Layout.Descriptor) : Session m String :=
  match flags.format, output with
  | .png, none => throw .noPictureFile
  | .png, some path =>
    match Svg.bitmapSize d s.picture with
    | .ok (width, height) => do
      ask (host.write path (.picture width height))
      return ""
    | .error fault => throw (.bitmap fault)
  | _, _ => deliver host output (Svg.render d)

def deliverPictures (host : Host m) (flags : Flags) (s : Settings)
    (pictures : List Layout.Descriptor) : Session m String :=
  match pictures, flags.output with
  | [d], output => deliverPicture host flags s output d
  | _, none => throw .noDeckFile
  | ds, some output => do
    let isDirectory ← (host.isDirectory output : StateT Nat m Bool)
    for (d, path) in ds.zip (slideFiles output isDirectory flags.format ds.length) do
      let _ ← deliverPicture host flags s (some path) d
    return ""

def session (host : Host m) (flags : Flags) : Session m String := do
  let s ← applyFlags flags (← loadSettings host flags.config)
  if flags.listThemes then return themeListing s.registry
  let doc := Markup.document (← loadDeck host flags.input)
  match flags.format with
  | .svg | .png => deliverPictures host flags s (← orFault (shown flags.slide (Layout.document doc s)))
  | format => deliver host flags.output (jsonOutput format doc s).page

def versionText : String := "slidemark 0.1.0\n"

def usageText : String := "Usage: slidemark [OPTIONS]\n"

def run (host : Host m) (args : List String) : m Report := do
  match Flags.read args with
  | .error .usage => return ⟨2, "", none, 0⟩
  | .error .help => return ⟨0, usageText, none, 0⟩
  | .error .version => return ⟨0, versionText, none, 0⟩
  | .ok flags =>
    let (result, warnings) ← (session host flags).run.run 0
    match result with
    | .ok output => return ⟨0, output, none, warnings⟩
    | .error failure => return ⟨1, "", some failure.message, warnings⟩

end

end SlideDeck.CommandLine
