/-! Text in markup: five characters are written as entities. `escape` looks at every character
once; `escapeInTurn` replaces one character after the other in the whole text, ampersands
first, since entities begin with them. -/

namespace SlideDeck.Svg

def entities : List (Char × List Char) :=
  [('&', "&amp;".toList), ('<', "&lt;".toList), ('>', "&gt;".toList), ('"', "&quot;".toList),
    ('\x27', "&apos;".toList)]

def escapeChar (c : Char) : List Char := (entities.lookup c).getD [c]

def escape (cs : List Char) : List Char := cs.flatMap escapeChar

/-- The text that is written with entities. An ampersand has to begin one of the five. -/
def unescape? : List Char → Option (List Char)
  | '&' :: 'a' :: 'm' :: 'p' :: ';' :: cs => (unescape? cs).map ('&' :: ·)
  | '&' :: 'l' :: 't' :: ';' :: cs => (unescape? cs).map ('<' :: ·)
  | '&' :: 'g' :: 't' :: ';' :: cs => (unescape? cs).map ('>' :: ·)
  | '&' :: 'q' :: 'u' :: 'o' :: 't' :: ';' :: cs => (unescape? cs).map ('"' :: ·)
  | '&' :: 'a' :: 'p' :: 'o' :: 's' :: ';' :: cs => (unescape? cs).map ('\x27' :: ·)
  | '&' :: _ => none
  | c :: cs => (unescape? cs).map (c :: ·)
  | [] => some []

def replaceAll (c : Char) (entity : List Char) (cs : List Char) : List Char :=
  cs.flatMap fun x => if x = c then entity else [x]

def escapeInTurn (cs : List Char) : List Char :=
  entities.foldl (fun cs e => replaceAll e.1 e.2 cs) cs

end SlideDeck.Svg
