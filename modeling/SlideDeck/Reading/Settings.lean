import SlideDeck.Reading.Fields
import SlideDeck.Settings

/-! Reading canvases and changes of styles. A change names the fields that it replaces. -/

namespace SlideDeck.Reading

variable {τ : Type} [Source τ]

def canvas : Reader τ Canvas :=
  record "struct Canvas"
    (Canvas.mk <$> .required "aspectRatio" (variant AspectRatio.names) <*>
      .required "orientation" (variant Orientation.names) <*>
      .required "mode" (variant RenderMode.names))

def layoutStyle (s : LayoutStyle) : Reader τ LayoutStyle :=
  record "struct LayoutConfig"
    (LayoutStyle.mk <$> .orElse "lineHeight" single s.lineHeight <*>
      .orElse "paragraphGap" single s.paragraphGap <*>
      .orElse "headingScale" (vector 6 single) s.headingScale <*>
      .orElse "bulletGlyph" text s.bulletGlyph <*> .orElse "bulletGap" single s.bulletGap <*>
      .orElse "wrapText" flag s.wrapText <*> .orElse "tableFontScale" single s.tableFontScale <*>
      .orElse "tableCellPadding" single s.tableCellPadding <*>
      .orElse "footerCaption" text s.footerCaption <*>
      .orElse "thumbnailShortSide" single s.thumbnailShortSide <*>
      .orElse "fullscreenShortSide" single s.fullscreenShortSide)

def drawingStyle (s : DrawingStyle) : Reader τ DrawingStyle :=
  record "struct CodegenConfig"
    (DrawingStyle.mk <$> .orElse "idPrefix" text s.idPrefix <*>
      .orElse "bulletPreset" text s.bulletPreset)

end SlideDeck.Reading
