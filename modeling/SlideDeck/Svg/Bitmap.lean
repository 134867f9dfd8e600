import SlideDeck.Decimal.Literal
import SlideDeck.Settings
import SlideDeck.Svg.Slide
import SlideDeck.Text.Quoted

/-! The size of a picture in pixels. The picture is scaled to the width that is asked for; its
own size is what its markup says, to two decimal places. -/

namespace SlideDeck.Svg

inductive BitmapFault
  | badChar (c : Char) (line column : Nat)
  | tooLarge
deriving DecidableEq, Repr

def BitmapFault.message : BitmapFault → String
  | .badChar c line column =>
    "SVG data parsing failed cause a non-XML character '" ++ .ofList (Text.quotedChar c) ++
      "' found at " ++ Text.numeral line ++ ":" ++ Text.numeral column
  | .tooLarge => "Failed to allocate pixmap"

def isMarkupChar (c : Char) : Bool :=
  if c.toNat < 0x20 then c = '\t' || c = '\n' || c = '\r' else c ≠ '\uFFFE' && c ≠ '\uFFFF'

def badChar? (line column : Nat) : List Char → Option BitmapFault
  | [] => none
  | c :: cs =>
    if !isMarkupChar c then some (.badChar c line column)
    else if c = '\n' then badChar? (line + 1) 1 cs
    else badChar? line (column + 1) cs

def statedLength (x : Float32) : Float32 :=
  match Decimal.read? (num x).toList with
  | some d => d.toDouble.toFloat32
  | none => x

def pixels (scale length : Float32) : Nat := (larger (length * scale).ceil 1).toUInt32.toNat

def longestRow : Nat := 0x20000000

def bitmapSize (d : Layout.Descriptor) (style : PictureStyle) :
    Except BitmapFault (Nat × Nat) :=
  match badChar? 1 1 (picture d).chars with
  | some fault => .error fault
  | none =>
    let width := statedLength d.width
    let scale := if 0 < width then style.width / width else 1
    let size := (pixels scale width, pixels scale (statedLength d.height))
    if longestRow ≤ size.1 then .error .tooLarge else .ok size

end SlideDeck.Svg
