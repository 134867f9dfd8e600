/-! JSON5 texts after their syntax is known. Strings are kept in the parts that they are written
in and numbers as their characters; what they stand for is settled when they are read. -/

namespace SlideDeck.Json5

inductive Part
  | plain (c : Char)
  | escape (c : Char)
  | nul
  | hex (digits : List Char)
  | unit (digits : List Char)
deriving DecidableEq, Repr

inductive Term
  | null
  | flag (b : Bool)
  | number (token : List Char)
  | text (parts : List Part)
  | list (items : List Term)
  | record (members : List (List Part × Term))

def isLineEnd (c : Char) : Bool := c = '\n' || c = '\r' || c = '\u2028' || c = '\u2029'

def isHexDigit (c : Char) : Bool :=
  c.isDigit || ('a' ≤ c && c ≤ 'f') || ('A' ≤ c && c ≤ 'F')

end SlideDeck.Json5
