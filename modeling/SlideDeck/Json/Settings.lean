import SlideDeck.Geometry.Regions
import SlideDeck.Json.Value
import SlideDeck.Settings

/-! Canvases, regions and styles as JSON. -/

namespace SlideDeck

def Ratio.toJson (r : Ratio) : Json :=
  .record [("numerator", .nat r.numerator), ("denominator", .nat r.denominator)]

def Canvas.toJson (c : Canvas) : Json :=
  .record
    [("aspectRatio", .text c.aspectRatio.name), ("orientation", .text c.orientation.name),
      ("mode", .text c.mode.name)]

def Rect.toJson (r : Rect) : Json :=
  .record
    [("x", .single r.x), ("y", .single r.y), ("width", .single r.width),
      ("height", .single r.height)]

def Regions.toJson (r : Regions) : Json :=
  .record
    [("page", r.page.toJson), ("header", r.header.toJson), ("footer", r.footer.toJson),
      ("card", r.card.toJson), ("cardRadius", .single r.cardRadius), ("title", r.title.toJson),
      ("coverTitle", r.coverTitle.toJson), ("footerText", r.footerText.toJson),
      ("body", r.body.toJson), ("coverBody", r.coverBody.toJson),
      ("fontScale", .single r.fontScale)]

def LayoutStyle.toJson (s : LayoutStyle) : Json :=
  .record
    [("lineHeight", .single s.lineHeight), ("paragraphGap", .single s.paragraphGap),
      ("headingScale", .listOf .single s.headingScale.toList),
      ("bulletGlyph", .text s.bulletGlyph), ("bulletGap", .single s.bulletGap),
      ("wrapText", .bool s.wrapText), ("tableFontScale", .single s.tableFontScale),
      ("tableCellPadding", .single s.tableCellPadding), ("footerCaption", .text s.footerCaption),
      ("thumbnailShortSide", .single s.thumbnailShortSide),
      ("fullscreenShortSide", .single s.fullscreenShortSide)]

def DrawingStyle.toJson (s : DrawingStyle) : Json :=
  .record [("idPrefix", .text s.idPrefix), ("bulletPreset", .text s.bulletPreset)]

def PictureStyle.toJson (s : PictureStyle) : Json :=
  .record
    [("width", .single s.width), ("height", .single s.height), ("font_family", .text s.fontFamily)]

end SlideDeck
