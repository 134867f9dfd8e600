import SlideDeck.Decimal.Literal
import SlideDeck.Text.Number

/-! The arguments of the program. Options have a long name, most have a letter as well, and
letters can stand together. A value stands behind its option, or in the same argument; only there
may it begin with a dash. -/

namespace SlideDeck.CommandLine

inductive Format
  | svg
  | png
  | layout
  | ops
  | requests
  | ir
deriving DecidableEq, Repr

def Format.names : List (String × Format) :=
  [("svg", .svg), ("png", .png), ("layout", .layout), ("ops", .ops), ("requests", .requests),
    ("ir", .ir)]

structure Flags where
  input : Option String := none
  output : Option String := none
  format : Format := .svg
  config : Option String := none
  theme : Option String := none
  slideThemes : List String := []
  aspect : Option String := none
  orientation : Option String := none
  mode : Option String := none
  slide : Option Nat := none
  width : Option Float32 := none
  height : Option Float32 := none
  listThemes : Bool := false

inductive Flag
  | input
  | output
  | format
  | config
  | theme
  | slideTheme
  | aspect
  | orientation
  | mode
  | slide
  | width
  | height
  | listThemes
  | verbose
  | help
  | version
deriving DecidableEq, Repr

namespace Flag

def longNames : List (String × Flag) :=
  [("input", .input), ("output", .output), ("outputFormat", .format), ("configFile", .config),
    ("theme", .theme), ("slide-theme", .slideTheme), ("aspect", .aspect),
    ("orientation", .orientation), ("mode", .mode), ("slide", .slide), ("width", .width),
    ("height", .height), ("list-themes", .listThemes), ("verbose", .verbose), ("help", .help),
    ("version", .version)]

def letters : List (Char × Flag) :=
  [('i', .input), ('o', .output), ('e', .format), ('c', .config), ('t', .theme), ('a', .aspect),
    ('m', .mode), ('s', .slide), ('w', .width), ('H', .height), ('v', .verbose), ('h', .help),
    ('V', .version)]

def takesValue : Flag → Bool
  | .listThemes | .verbose | .help | .version => false
  | _ => true

def mayRepeat : Flag → Bool
  | .slideTheme | .verbose => true
  | _ => false

end Flag

inductive Stop
  | usage
  | help
  | version
deriving DecidableEq, Repr

def namedSingles : List (String × Float32) :=
  [("inf", 1 / 0), ("infinity", 1 / 0), ("nan", 0 / 0)]

/-- Reads a number of single precision; words for what is no finite number may have any case. -/
def readSingle (s : String) : Option Float32 :=
  let (negative, rest) := Decimal.splitSign s.toList
  let magnitude := match Decimal.read? rest with
    | some d => some d.toSingle
    | none => namedSingles.lookup (String.ofList (rest.map Char.toLower))
  magnitude.map fun x => if negative then -x else x

def nonempty (s : String) : Option String := if s.isEmpty then none else some s

def Flags.set (f : Flags) (flag : Flag) (value : String) : Option Flags :=
  match flag with
  | .input => (nonempty value).map fun v => { f with input := some v }
  | .output => (nonempty value).map fun v => { f with output := some v }
  | .config => (nonempty value).map fun v => { f with config := some v }
  | .format => (Format.names.lookup value).map fun v => { f with format := v }
  | .theme => some { f with theme := some value }
  | .slideTheme => some { f with slideThemes := f.slideThemes ++ [value] }
  | .aspect => some { f with aspect := some value }
  | .orientation => some { f with orientation := some value }
  | .mode => some { f with mode := some value }
  | .slide => (Text.index? value).map fun v => { f with slide := some v }
  | .width => (readSingle value).map fun v => { f with width := some v }
  | .height => (readSingle value).map fun v => { f with height := some v }
  | .listThemes => some { f with listThemes := true }
  | .verbose | .help | .version => some f

/-- The state between arguments: the options read so far, the one that waits for its value, and
whether a bare double dash has ended the options. -/
structure Scan where
  flags : Flags := {}
  seen : List Flag := []
  pending : Option Flag := none
  ended : Bool := false

namespace Scan

def give (s : Scan) (flag : Flag) (value : String) : Except Stop Scan :=
  if s.seen.contains flag && !flag.mayRepeat then .error .usage
  else
    match s.flags.set flag value with
    | some flags => .ok { s with flags, seen := flag :: s.seen, pending := none }
    | none => .error .usage

def raise (s : Scan) (flag : Flag) : Except Stop Scan :=
  match flag with
  | .help => .error .help
  | .version => .error .version
  | _ => s.give flag ""

def long (s : Scan) (arg : List Char) : Except Stop Scan :=
  let (name, rest) := arg.span (· != '=')
  match Flag.longNames.lookup (String.ofList name), rest with
  | none, _ => .error .usage
  | some flag, [] => if flag.takesValue then .ok { s with pending := some flag } else s.raise flag
  | some flag, _ :: value =>
    if flag.takesValue then s.give flag (.ofList value) else .error .usage

/-- Letters behind one dash; the first that takes a value ends them. -/
def short (s : Scan) : List Char → Except Stop Scan
  | [] => .ok s
  | c :: rest =>
    match Flag.letters.lookup c with
    | none => .error .usage
    | some flag =>
      if flag.takesValue then
        match rest with
        | [] => .ok { s with pending := some flag }
        | '=' :: value => s.give flag (.ofList value)
        | value => s.give flag (.ofList value)
      else
        match s.raise flag with
        | .ok s => s.short rest
        | .error stop => .error stop

def step (s : Scan) (arg : String) : Except Stop Scan :=
  if s.ended then .error .usage
  else
    match arg.toList, s.pending with
    | ['-', '-'], _ => .ok { s with ended := true }
    | '-' :: '-' :: rest, none => s.long rest
    | '-' :: c :: rest, none => s.short (c :: rest)
    | '-' :: _ :: _, some _ => .error .usage
    | _, some flag => s.give flag arg
    | _, none => .error .usage

end Scan

def Flags.read (args : List String) : Except Stop Flags := do
  let s ← args.foldlM Scan.step {}
  if s.pending.isSome then .error .usage else .ok s.flags

end SlideDeck.CommandLine
