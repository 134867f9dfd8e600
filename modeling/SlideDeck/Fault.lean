import SlideDeck.Text.Number

/-! What can be wrong with a value that a deck is made from. -/

namespace SlideDeck

inductive Fault
  | missingDefaultTheme
  | aspectRatio (given : String)
  | color (given : String)
  | slideTheme (given : String)
  | orientation (given : String)
  | renderMode (given : String)
  | noSlide (index count : Nat)
deriving DecidableEq, Repr

def Fault.message : Fault → String
  | .missingDefaultTheme => "theme registry is missing the default theme `default`"
  | .aspectRatio given => "invalid aspect ratio `" ++ given ++ "` (expected 16:9, 4:3 or 1:1)"
  | .color given => "invalid color `" ++ given ++ "`"
  | .slideTheme given => "invalid slide theme override `" ++ given ++ "` (expected INDEX=THEME)"
  | .orientation given => "config error: unknown orientation `" ++ given ++ "`"
  | .renderMode given => "config error: unknown render mode `" ++ given ++ "`"
  | .noSlide index count =>
    "slide " ++ Text.numeral index ++ " out of range (deck has " ++ Text.numeral count ++ ")"

end SlideDeck
