/-! Paths of files, as text and as the names between the slashes. -/

namespace SlideDeck.CommandLine

structure Path where
  absolute : Bool
  names : List String
deriving DecidableEq, Repr

namespace Path

def isName (s : String) : Bool := s != "" && s != "."

def read (s : String) : Path :=
  match (s.toList.splitOn '/').map String.ofList with
  | [] => ⟨false, []⟩
  | first :: rest =>
    if first.isEmpty then ⟨!rest.isEmpty, rest.filter isName⟩
    else ⟨false, first :: rest.filter isName⟩

def steps (s : String) : List String :=
  ((s.toList.splitOn '/').map String.ofList).filter (· != "")

def text (p : Path) : String := (if p.absolute then "/" else "") ++ "/".intercalate p.names

def fileName? (p : Path) : Option String :=
  match p.names.getLast? with
  | some name => if name = ".." || name = "." then none else some name
  | none => none

/-- A file's name up to its last dot; a dot in front starts a name. -/
def stemOf (name : String) : String :=
  let back := name.toList.reverse
  match back.dropWhile (· != '.') with
  | [] => name
  | _ :: stem => if stem.isEmpty then name else .ofList stem.reverse

def stem? (p : Path) : Option String := p.fileName?.map stemOf

def parent (p : Path) : Path := ⟨p.absolute, p.names.dropLast⟩

def join (base name : String) : String :=
  if base.isEmpty || base.toList.getLast? = some '/' then base ++ name else base ++ "/" ++ name

end Path

end SlideDeck.CommandLine
