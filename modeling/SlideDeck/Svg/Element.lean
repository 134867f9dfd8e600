import SlideDeck.Svg.Escape

/-! Markup as a tree, and its text. Tags and the names of attributes are written as they are,
everything else is escaped. -/

namespace SlideDeck.Svg

/-- A node of a document; a leaf has one tag only. -/
inductive Element
  | leaf (tag : String) (attributes : List (String × String))
  | node (tag : String) (attributes : List (String × String)) (children : List Element)
  | text (s : String)

namespace Element

def attributeText (a : String × String) : List Char :=
  ' ' :: (a.1.toList ++ '=' :: '"' :: (escape a.2.toList ++ ['"']))

def openTag (tag : String) (attributes : List (String × String)) : List Char :=
  '<' :: (tag.toList ++ attributes.flatMap attributeText)

mutual

def chars : Element → List Char
  | .leaf tag attributes => openTag tag attributes ++ ['/', '>']
  | .node tag attributes children =>
    openTag tag attributes ++ '>' :: (charsOfAll children ++ '<' :: '/' :: (tag.toList ++ ['>']))
  | .text s => escape s.toList

def charsOfAll : List Element → List Char
  | [] => []
  | e :: es => chars e ++ charsOfAll es

end

def render (e : Element) : String := .ofList e.chars

end Element

end SlideDeck.Svg
