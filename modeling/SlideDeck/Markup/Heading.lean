import SlideDeck.Document
import SlideDeck.Text.Blank

/-! Heading lines: one or more number signs, white space, and the heading's text. Number
signs beyond the sixth add no level. -/

namespace SlideDeck.Markup

structure Heading where
  level : UInt8
  text : String
deriving DecidableEq, Repr

def Heading.read? (line : String) : Option Heading :=
  let marks := line.toList.takeWhile (· == '#')
  match line.toList.dropWhile (· == '#') with
  | c :: rest =>
    if !marks.isEmpty && Text.isBlank c then
      some ⟨UInt8.ofNat (min marks.length maxLevel), .ofList (Text.trim rest)⟩
    else none
  | [] => none

end SlideDeck.Markup
