import SlideDeck.Json.Value
import SlideDeck.Theme.Registry

/-! Themes and assignments of themes as JSON. Slides are keys, so their indices are text. -/

namespace SlideDeck

def Color.toJson (c : Color) : Json := .text c.toHex

def Category.toJson (c : Category) : Json := .text c.label

def TextStyle.toJson (s : TextStyle) : Json :=
  .record
    [("fontFamily", .text s.fontFamily), ("fontSize", .single s.fontSize), ("bold", .bool s.bold),
      ("color", s.color.toJson)]

def Palette.toJson (p : Palette) : Json :=
  .record
    [("background", p.background.toJson), ("primary", p.primary.toJson), ("card", p.card.toJson),
      ("text", p.text.toJson)]

def Typography.toJson (t : Typography) : Json :=
  .record
    [("header", t.header.toJson), ("body", t.body.toJson), ("footer", t.footer.toJson)]

def Theme.toJson (t : Theme) : Json :=
  .record
    [("name", .text t.name), ("category", t.category.toJson), ("colors", t.colors.toJson),
      ("typography", t.typography.toJson)]

def indexKey (i : Nat) : String := Text.numeral i

def Assignment.toJson (a : Assignment) : Json :=
  .record
    [("global", .text a.deck),
      ("overrides", .record (a.toList.map fun e => (indexKey e.1, .text e.2)))]

end SlideDeck
