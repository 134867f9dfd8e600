import SlideDeck.Decimal.Notation
import SlideDeck.Json.Value

/-! JSON text: on one line without spaces, or indented by two spaces a level. Numbers have the
fewest digits that identify them in their own precision; what is not a finite number is null.
Characters beyond ASCII stand for themselves. -/

namespace SlideDeck.Json

def singleNotation : Decimal.Notation where
  leadingZeros := 5
  wholeDigits := 13
  tie := .toEven
  nan := "null"
  infinity := "null"

def doubleNotation : Decimal.Notation where
  leadingZeros := 4
  wholeDigits := 16
  tie := .toEven
  nan := "null"
  infinity := "null"

def singleText (x : Float32) : String :=
  if x.isFinite then singleNotation.render (.ofSingle x) else "null"

def doubleText (x : Float) : String :=
  if x.isFinite then doubleNotation.render (.ofDouble x) else "null"

def intText (n : Int) : String :=
  .ofList ((if n < 0 then ['-'] else []) ++ Decimal.digitText n.natAbs)

def hexDigit (n : Nat) : Char := (Nat.toDigits 16 (n % 16)).headD '0'

def escapeChar (c : Char) : List Char :=
  if c = '"' then ['\\', '"']
  else if c = '\\' then ['\\', '\\']
  else if c = '\n' then ['\\', 'n']
  else if c = '\r' then ['\\', 'r']
  else if c = '\t' then ['\\', 't']
  else if c = '\x08' then ['\\', 'b']
  else if c = '\x0c' then ['\\', 'f']
  else if c.toNat < 0x20 then ['\\', 'u', '0', '0', hexDigit (c.toNat / 16), hexDigit c.toNat]
  else [c]

def quoted (s : String) : List Char := '"' :: (s.toList.flatMap escapeChar ++ ['"'])

mutual

def compact : Json → List Char
  | .list items => '[' :: compactItems items
  | .record members => '{' :: compactMembers members
  | .null => "null".toList
  | .bool b => if b then "true".toList else "false".toList
  | .int n => (intText n).toList
  | .single x => (singleText x).toList
  | .double x => (doubleText x).toList
  | .text s => quoted s

def compactItems : List Json → List Char
  | [] => [']']
  | [v] => compact v ++ [']']
  | v :: w :: vs => compact v ++ ',' :: compactItems (w :: vs)

def compactMembers : List (String × Json) → List Char
  | [] => ['}']
  | [(k, v)] => quoted k ++ ':' :: (compact v ++ ['}'])
  | (k, v) :: m :: ms => quoted k ++ ':' :: (compact v ++ ',' :: compactMembers (m :: ms))

end

def line (v : Json) : String := .ofList (compact v)

def newLine (depth : Nat) : List Char := '\n' :: List.replicate (2 * depth) ' '

mutual

def indented (depth : Nat) : Json → List Char
  | .list items => if items.isEmpty then ['[', ']'] else '[' :: indentedItems depth items
  | .record members => if members.isEmpty then ['{', '}'] else '{' :: indentedMembers depth members
  | .null => "null".toList
  | .bool b => if b then "true".toList else "false".toList
  | .int n => (intText n).toList
  | .single x => (singleText x).toList
  | .double x => (doubleText x).toList
  | .text s => quoted s

def indentedItems (depth : Nat) : List Json → List Char
  | [] => newLine depth ++ [']']
  | [v] => newLine (depth + 1) ++ (indented (depth + 1) v ++ (newLine depth ++ [']']))
  | v :: w :: vs =>
    newLine (depth + 1) ++ (indented (depth + 1) v ++ ',' :: indentedItems depth (w :: vs))

def indentedMembers (depth : Nat) : List (String × Json) → List Char
  | [] => newLine depth ++ ['}']
  | [(k, v)] =>
    newLine (depth + 1) ++
      (quoted k ++ ':' :: ' ' :: (indented (depth + 1) v ++ (newLine depth ++ ['}'])))
  | (k, v) :: m :: ms =>
    newLine (depth + 1) ++
      (quoted k ++ ':' :: ' ' :: (indented (depth + 1) v ++ ',' :: indentedMembers depth (m :: ms)))

end

def page (v : Json) : String := .ofList (indented 0 v ++ ['\n'])

end SlideDeck.Json
