import SlideDeck.Svg.Element

/-! Reading markup: tags with attributes in double quotes, and text in which the five entities
stand for their characters. Tags have to be closed in the order in which they were opened, no
attribute is given twice, and there is one element that holds all others. -/

namespace SlideDeck.Svg

inductive Token
  | opening (tag : String) (attributes : List (String × String))
  | empty (tag : String) (attributes : List (String × String))
  | closing (tag : String)
  | text (s : String)
deriving DecidableEq, Repr

def isNameChar (c : Char) : Bool := c.isAlpha || c == ':' || c == '-'

def isName : List Char → Bool
  | [] => false
  | c :: cs => c.isAlpha && cs.all isNameChar

/-- What has been read of a tag, last attribute first. -/
structure Tag where
  name : String
  attributes : List (String × String)

/-- Where a reader stands, with what it has read of the piece in hand, last character first. -/
inductive Place
  | text (raw : List Char)
  | opened
  | closing (name : List Char)
  | opening (name : List Char)
  | attributeName (tag : Tag) (name : List Char)
  | quote (tag : Tag) (name : String)
  | value (tag : Tag) (name : String) (raw : List Char)
  | behind (tag : Tag)
  | slash (tag : Tag)

namespace Place

def name? (name : List Char) : Option String :=
  if isName name.reverse then some (.ofList name.reverse) else none

def texts? (raw : List Char) : Option (List Token) :=
  (unescape? raw.reverse).map fun cs => if cs.isEmpty then [] else [.text (.ofList cs)]

def afterTag (tag : Tag) (c : Char) : Option (List Token × Place) :=
  if c = ' ' then some ([], .attributeName tag [])
  else if c = '/' then some ([], .slash tag)
  else if c = '>' then some ([.opening tag.name tag.attributes.reverse], .text [])
  else none

def addAttribute (tag : Tag) (name value : String) : Option Tag :=
  if tag.attributes.any (·.1 == name) then none
  else some { tag with attributes := (name, value) :: tag.attributes }

def next : Place → Char → Option (List Token × Place)
  | .text raw, c =>
    if c = '<' then (texts? raw).map fun ts => (ts, .opened)
    else if c = '>' then none
    else some ([], .text (c :: raw))
  | .opened, c => some ([], if c = '/' then .closing [] else .opening [c])
  | .closing name, c =>
    if c = '>' then (name? name).map fun tag => ([.closing tag], .text [])
    else some ([], .closing (c :: name))
  | .opening name, c =>
    if c = ' ' || c = '/' || c = '>' then (name? name).bind fun tag => afterTag ⟨tag, []⟩ c
    else some ([], .opening (c :: name))
  | .attributeName tag name, c =>
    if c = '=' then (name? name).map fun name => ([], .quote tag name)
    else some ([], .attributeName tag (c :: name))
  | .quote tag name, c => if c = '"' then some ([], .value tag name []) else none
  | .value tag name raw, c =>
    if c = '"' then do
      let value ← unescape? raw.reverse
      let tag ← addAttribute tag name (.ofList value)
      return ([], .behind tag)
    else if c = '<' then none
    else some ([], .value tag name (c :: raw))
  | .behind tag, c => afterTag tag c
  | .slash tag, c =>
    if c = '>' then some ([.empty tag.name tag.attributes.reverse], .text []) else none

def tokens? : Place → List Char → Option (List Token)
  | .text raw, [] => texts? raw
  | _, [] => none
  | p, c :: cs => do
    let (ts, p) ← next p c
    return ts ++ (← tokens? p cs)

end Place

/-- An element that is open, with the elements in front of it, last one first. -/
structure Frame where
  tag : String
  attributes : List (String × String)
  before : List Element

/-- Puts tokens into elements, behind those read so far, last one first, and inside of the open
ones, innermost first. -/
def nest (read : List Element) (frames : List Frame) : List Token → Option (List Element)
  | [] => if frames.isEmpty then some read.reverse else none
  | .opening tag attributes :: ts => nest [] (⟨tag, attributes, read⟩ :: frames) ts
  | .empty tag attributes :: ts => nest (.leaf tag attributes :: read) frames ts
  | .text s :: ts => nest (.text s :: read) frames ts
  | .closing tag :: ts =>
    match frames with
    | [] => none
    | f :: frames =>
      if f.tag = tag then nest (.node tag f.attributes read.reverse :: f.before) frames ts
      else none

def read? (document : String) : Option Element := do
  let ts ← Place.tokens? (.text []) document.toList
  match ← nest [] [] ts with
  | [.text _] => none
  | [root] => some root
  | _ => none

end SlideDeck.Svg
