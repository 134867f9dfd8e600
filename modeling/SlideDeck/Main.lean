import SlideDeck.CommandLine.Program

/-! The program on the files of the system. -/

namespace SlideDeck.CommandLine

def HostFault.ofError : IO.Error → HostFault
  | .noFileOrDirectory _ _ _ => .noEntry
  | .inappropriateType _ code _ => if code = 21 then .isDirectory else .notDirectory
  | e => .other (toString e)

def attempt {α : Type} (x : IO α) : IO (Except HostFault α) := do
  match ← x.toBaseIO with
  | .ok a => return .ok a
  | .error e => return .error (.ofError e)

def readSystemFile (path : String) : IO (Except HostFault String) := do
  match ← attempt (IO.FS.readBinFile path) with
  | .error fault => return .error fault
  | .ok bytes =>
    match String.fromUTF8? bytes with
    | some s => return .ok s
    | none => return .error (.other "stream did not contain valid UTF-8")

/-- The files of the system. A picture has a size here but no points, so none is written. -/
def systemHost : Host IO where
  readFile := readSystemFile
  readInput := do attempt (← IO.getStdin).readToEnd
  isDirectory path := return (← readSystemFile path) matches .error .isDirectory
  write path
    | .text s => attempt (IO.FS.writeFile path s)
    | .picture _ _ => return .error (.other "PNG output requires the `png` feature")

end SlideDeck.CommandLine

open SlideDeck.CommandLine in
def main (args : List String) : IO UInt32 := do
  let report ← SlideDeck.CommandLine.run systemHost args
  for _ in List.range report.warnings do
    IO.eprintln "warning: theme not in registry, slides will use the default theme"
  if report.code = 2 then IO.eprint usageText
  if let some message := report.error then IO.eprintln s!"error: {message}"
  IO.print report.output
  return report.code.toUInt32
