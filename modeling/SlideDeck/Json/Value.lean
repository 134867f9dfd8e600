/-! JSON values. The members of a record keep their order, and a number keeps the precision it
was made with, since its shortest text depends on it. -/

namespace SlideDeck

inductive Json
  | null
  | bool (b : Bool)
  | int (n : Int)
  | single (x : Float32)
  | double (x : Float)
  | text (s : String)
  | list (items : List Json)
  | record (members : List (String × Json))
deriving Inhabited

namespace Json

def nat (n : Nat) : Json := .int n

def listOf {α : Type} (f : α → Json) (items : List α) : Json := .list (items.map f)

def texts (ss : List String) : Json := listOf .text ss

def opt {α : Type} (f : α → Json) : Option α → Json
  | some a => f a
  | none => .null

def tagged (label tag : String) : Json → Json
  | .record ms => .record ((label, .text tag) :: ms)
  | other => other

/-- Puts a member where its key belongs in a record whose keys ascend. -/
def insertMember (k : String) (v : Json) : List (String × Json) → List (String × Json)
  | [] => [(k, v)]
  | m :: ms => if k ≤ m.1 then (k, v) :: m :: ms else m :: insertMember k v ms

mutual

def sortMembers : Json → Json
  | .list items => .list (sortItems items)
  | .record members => .record (sortRecord members)
  | .null => .null
  | .bool b => .bool b
  | .int n => .int n
  | .single x => .single x
  | .double x => .double x
  | .text s => .text s

def sortItems : List Json → List Json
  | [] => []
  | v :: vs => sortMembers v :: sortItems vs

def sortRecord : List (String × Json) → List (String × Json)
  | [] => []
  | (k, v) :: ms => insertMember k (sortMembers v) (sortRecord ms)

end

end Json

end SlideDeck
