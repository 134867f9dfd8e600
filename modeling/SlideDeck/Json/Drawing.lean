import SlideDeck.Drawing.Request
import SlideDeck.Json.Document
import SlideDeck.Json.Settings
import SlideDeck.Json.Theme

/-! Drawing commands and requests as JSON. In commands only what is set is written. Requests have
the members of every record in the order of their keys, and their numbers in double precision. -/

namespace SlideDeck.Drawing

def ShapeKind.name : ShapeKind → String
  | .rectangle => "rectangle"
  | .roundRectangle => "roundRectangle"
  | .textBox => "textBox"

def FillTarget.name : FillTarget → String
  | .page => "page"
  | .shape => "shape"

def ParagraphAlign.name : ParagraphAlign → String
  | .start => "start"

def Extent.toJson : Extent → Json
  | .all => .record [("type", .text "all")]
  | .fixed span => span.toJson.tagged "type" "fixed"

/-- A member that is written only if it has a value. -/
def member {α : Type} (key : String) (f : α → Json) (value : Option α) : List (String × Json) :=
  value.toList.map fun a => (key, f a)

def StyleChange.toJson (c : StyleChange) : Json :=
  .record
    (member "fontFamily" .text c.fontFamily ++ (member "fontSize" .single c.fontSize ++
      (member "bold" .bool c.bold ++ member "color" Color.toJson c.color)))

def Op.members : Op → List (String × Json)
  | .createSurface id index => [("slideId", .text id), ("index", .nat index)]
  | .setFill id target color =>
    [("objectId", .text id), ("target", .text target.name), ("color", color.toJson)]
  | .createShape id surface kind frame align =>
    [("objectId", .text id), ("slideId", .text surface), ("kind", .text kind.name),
      ("frame", frame.toJson)] ++ member "contentAlignment" (fun a => .text a.name) align
  | .insertText id text => [("objectId", .text id), ("text", .text text)]
  | .styleText id extent change =>
    [("objectId", .text id), ("range", extent.toJson), ("style", change.toJson)]
  | .alignParagraphs id extent align =>
    [("objectId", .text id), ("range", extent.toJson), ("alignment", .text align.name)]
  | .addBullets id span preset =>
    [("objectId", .text id), ("range", span.toJson), ("preset", .text preset)]

def Op.toJson (op : Op) : Json := .record (("op", .text op.name) :: op.members)

def Op.dump (slideCount : Nat) (ops : List Op) : Json :=
  .record [("slideCount", .nat slideCount), ("ops", .listOf Op.toJson ops)]

def PageField.path : PageField → String
  | .background => "pageBackgroundFill.solidFill.color"

def ShapeField.path : ShapeField → String
  | .fill => "shapeBackgroundFill.solidFill.color"
  | .outline => "outline"
  | .align => "contentAlignment"

def TextField.path : TextField → String
  | .fontFamily => "fontFamily"
  | .fontSize => "fontSize"
  | .bold => "bold"
  | .color => "foregroundColor"

def ParagraphField.path : ParagraphField → String
  | .align => "alignment"

namespace Request

def shapeType : ShapeKind → String
  | .rectangle => "RECTANGLE"
  | .roundRectangle => "ROUND_RECTANGLE"
  | .textBox => "TEXT_BOX"

def alignmentName : Align → String
  | .top => "TOP"
  | .middle => "MIDDLE"

def paragraphAlignmentName : ParagraphAlign → String
  | .start => "START"

def number (x : Float32) : Json := .double x.toFloat

def dimension (x : Float32) : Json := .record [("magnitude", number x), ("unit", .text "PT")]

def rgbColor (c : Color) : Json :=
  .record
    [("rgbColor", .record
      [("red", number (Color.unit c.red)), ("green", number (Color.unit c.green)),
        ("blue", number (Color.unit c.blue))])]

def solidFill (c : Color) : Json := .record [("solidFill", .record [("color", rgbColor c)])]

def elementProperties (page : String) (frame : Rect) : Json :=
  .record
    [("pageObjectId", .text page),
      ("size", .record
        [("width", dimension frame.width), ("height", dimension frame.height)]),
      ("transform", .record
        [("scaleX", .nat 1), ("scaleY", .nat 1), ("translateX", number frame.x),
          ("translateY", number frame.y), ("unit", .text "PT")])]

def textRange : Extent → Json
  | .all => .record [("type", .text "ALL")]
  | .fixed span =>
    .record
      [("type", .text "FIXED_RANGE"), ("startIndex", .nat span.start), ("endIndex", .nat span.stop)]

def pageProperties (p : PageProperties) : Json :=
  .record (member "pageBackgroundFill" solidFill p.background)

def outline (shown : Bool) : Json :=
  .record [("propertyState", .text (if shown then "RENDERED" else "NOT_RENDERED"))]

def shapeProperties (p : ShapeProperties) : Json :=
  .record
    (member "shapeBackgroundFill" solidFill p.fill ++ (member "outline" outline p.outline ++
      member "contentAlignment" (fun a => .text (alignmentName a)) p.align))

def textStyle (c : StyleChange) : Json :=
  .record
    (member "fontFamily" .text c.fontFamily ++ (member "fontSize" dimension c.fontSize ++
      (member "bold" .bool c.bold ++
        member "foregroundColor" (fun color => .record [("opaqueColor", rgbColor color)]) c.color)))

def paragraphStyle (p : ParagraphProperties) : Json :=
  .record (member "alignment" (fun a => .text (paragraphAlignmentName a)) p.align)

def mask {α : Type} (path : α → String) (fields : List α) : Json :=
  .text (",".intercalate (fields.map path))

def call : Request → String × List (String × Json)
  | createSlide id index =>
    ("createSlide",
      [("objectId", .text id), ("insertionIndex", .nat index),
        ("slideLayoutReference", .record [("predefinedLayout", .text "BLANK")])])
  | updatePage id properties fields =>
    ("updatePageProperties",
      [("objectId", .text id), ("pageProperties", pageProperties properties),
        ("fields", mask PageField.path fields)])
  | createShape id page kind frame =>
    ("createShape",
      [("objectId", .text id), ("shapeType", .text (shapeType kind)),
        ("elementProperties", elementProperties page frame)])
  | updateShape id properties fields =>
    ("updateShapeProperties",
      [("objectId", .text id), ("shapeProperties", shapeProperties properties),
        ("fields", mask ShapeField.path fields)])
  | insertText id text index =>
    ("insertText", [("objectId", .text id), ("text", .text text), ("insertionIndex", .nat index)])
  | updateText id extent style fields =>
    ("updateTextStyle",
      [("objectId", .text id), ("textRange", textRange extent), ("style", textStyle style),
        ("fields", mask TextField.path fields)])
  | updateParagraphs id extent style fields =>
    ("updateParagraphStyle",
      [("objectId", .text id), ("textRange", textRange extent), ("style", paragraphStyle style),
        ("fields", mask ParagraphField.path fields)])
  | createBullets id extent preset =>
    ("createParagraphBullets",
      [("objectId", .text id), ("textRange", textRange extent), ("bulletPreset", .text preset)])

def toJson (r : Request) : Json := (Json.record [(r.call.1, .record r.call.2)]).sortMembers

def batch (requests : List Request) : Json := .record [("requests", .listOf toJson requests)]

end Request

end SlideDeck.Drawing
