import SlideDeck.CommandLine.Program

/-! A tree of files in memory as a host for the program. It has the failures of a file system: a
name that does not exist, a directory where a file is expected, a file where a directory is. -/

namespace SlideDeck.CommandLine

inductive Entry
  | directory
  | file (content : Content)
deriving DecidableEq, Repr

/-- Entries by the names that lead to them from the directory that the program runs in. Names that
start with two dots lead out of it, and so do those that start with a slash, which is the name of
the topmost directory. -/
structure Disk where
  entries : List (List String × Entry)

namespace Disk

def empty : Disk := ⟨[]⟩

def root : String := "/"

def up : String := ".."

/-- What the names lead to. Of the world around its own directory a disk knows the directories
above and what has been put there. -/
def get? (d : Disk) (names : List String) : Option Entry :=
  if names = [root] || names.all (· == up) then some .directory else d.entries.lookup names

def put (d : Disk) (names : List String) (e : Entry) : Disk :=
  ⟨(names, e) :: d.entries.filter fun old => old.1 != names⟩

def namesOf (path : String) : List String :=
  let names := (Path.steps path).filter (· != ".")
  if (Path.read path).absolute then root :: names else names

def addParents (d : Disk) (names : List String) : Disk :=
  (List.range (names.length - 1)).foldl (fun d n => d.put (names.take (n + 1)) .directory) d

def addDirectory (d : Disk) (path : String) : Disk :=
  (d.addParents (namesOf path)).put (namesOf path) .directory

def addFile (d : Disk) (path text : String) : Disk :=
  (d.addParents (namesOf path)).put (namesOf path) (.file (.text text))

def above : List String → List String
  | [] => [up]
  | name :: place =>
    if name = root then [root] else if name = up then up :: name :: place else place

def longestName : Nat := 255

def longestPath : Nat := 4096

def follow (d : Disk) (place : List String) : List String → Except HostFault (List String)
  | [] => .ok place.reverse
  | name :: rest =>
    if name = "." then d.follow place rest
    else if name = ".." then d.follow (above place) rest
    else if longestName < name.utf8ByteSize then .error .nameTooLong
    else
      match rest, d.get? (name :: place).reverse with
      | [], _ => .ok (name :: place).reverse
      | _, some .directory => d.follow (name :: place) rest
      | _, some (.file _) => .error .notDirectory
      | _, none => .error .noEntry

def resolve (d : Disk) (path : String) : Except HostFault (List String) :=
  if path.isEmpty then .error .noEntry
  else if longestPath ≤ path.utf8ByteSize then .error .nameTooLong
  else d.follow (if (Path.read path).absolute then [root] else []) (Path.steps path)

def endsInSlash (path : String) : Bool := path.toList.getLast? = some '/'

def isDirectory (d : Disk) (path : String) : Bool :=
  match d.resolve path with
  | .ok names => d.get? names = some .directory
  | .error _ => false

def read (d : Disk) (path : String) : Except HostFault String := do
  match d.get? (← d.resolve path) with
  | none => .error .noEntry
  | some .directory => .error .isDirectory
  | some (.file content) =>
    if endsInSlash path then .error .notDirectory
    else
      match content with
      | .text s => .ok s
      | .picture _ _ => .ok ""

/-- Writes a file, which takes the place of an older one. What asks for a directory is taken for
one, whether it is there or not. -/
def write (d : Disk) (path : String) (content : Content) : Except HostFault Disk := do
  let names ← d.resolve path
  if endsInSlash path || d.get? names = some .directory then .error .isDirectory
  else .ok (d.put names (.file content))

def isInside (names : List String) : Bool := names.head? ≠ some up && names.head? ≠ some root

def changes (d before : Disk) : List (String × Content) :=
  (d.entries.filter fun e => isInside e.1).filterMap fun (names, e) =>
    match e with
    | .file content =>
      if before.get? names = some e then none else some ("/".intercalate names, content)
    | .directory => none

def host (input : String) : Host (StateM Disk) where
  readFile path := return (← get).read path
  readInput := return .ok input
  isDirectory path := return (← get).isDirectory path
  write path content := do
    match (← get).write path content with
    | .ok d =>
      set d
      return .ok ()
    | .error fault => return .error fault

end Disk

end SlideDeck.CommandLine
