import SlideDeck.Drawing.Slide
import SlideDeck.Json.Drawing
import SlideDeck.Json.Layout
import SlideDeck.Json.Printer
import SlideDeck.Settings.File
import SlideDeck.Svg.Slide

/-! Decks as a service: from a deck and the text of its settings to one text. -/

namespace SlideDeck.Service

def layouts (markdown : String) (options : Option String) : Except SettingsFault String := do
  return (Json.listOf Layout.Descriptor.toJson
    (Layout.deck markdown (← Settings.ofOptions options))).line

def ops (markdown : String) (options : Option String) : Except SettingsFault String := do
  return (Json.listOf Drawing.Op.toJson (Drawing.deck markdown (← Settings.ofOptions options))).line

def requests (markdown : String) (options : Option String) : Except SettingsFault String := do
  let ops := Drawing.deck markdown (← Settings.ofOptions options)
  return (Drawing.Request.batch (Drawing.Request.ofOps ops)).line

def picture (markdown : String) (index : Nat) (options : Option String) :
    Except SettingsFault String := do
  let layouts := Layout.deck markdown (← Settings.ofOptions options)
  match layouts[index]? with
  | some layout => return Svg.render layout
  | none => .error (.invalid (.noSlide index layouts.length))

end SlideDeck.Service
