import SlideDeck.Json.Printer
import SlideDeck.Reading.Source

/-! JSON values as a source of data. A value that had to be looked at before is `Reread`; it
differs only in what is said of lists that are too long. -/

namespace SlideDeck

namespace Json

def wording : Reading.Wording where
  null := "null"
  real := { doubleNotation with nan := "NaN", infinity := "inf" }

open Reading

def look : Json → Reading.View Json
  | .null => .null
  | .bool b => .flag b
  | .int n => .whole n
  | .single x => .real x.toFloat
  | .double x => .real x
  | .text s => .text s
  | .list vs => .list vs
  | .record ms => .record (ms.map fun m => (.ok m.1, m.2))

def isNull : Json → Bool
  | .null => true
  | _ => false

def readSingle : Json → Except Misfit Float32
  | .int n => .ok (.ofInt n)
  | .single x => .ok x
  | .double x => .ok x.toFloat32
  | v => .error (.wrongType v.look.found "f32")

def choice : Json → Except Misfit (String × Option Json)
  | .text name => .ok (name, none)
  | .record [(name, v)] => .ok (name, some v)
  | .record _ => .error (.wrongValue .record "map with a single key")
  | v => .error (.wrongType v.look.found "string or map")

instance : Source Json where
  look v := .ok v.look
  isNull := isNull
  single := readSingle
  choice := choice
  pass _ := .ok ()
  surplus? _ size := some (.wrongLength size "fewer elements in array")

end Json

namespace Reading

structure Reread where
  value : Json

namespace Reread

def look (v : Reread) : View Reread :=
  match v.value.look with
  | .null => .null
  | .flag b => .flag b
  | .whole n => .whole n
  | .real x => .real x
  | .text s => .text s
  | .list vs => .list (vs.map Reread.mk)
  | .record ms => .record (ms.map fun m => (m.1, ⟨m.2⟩))

def surplusText (n : Nat) : String :=
  Text.numeral n ++ if n == 1 then " element in sequence" else " elements in sequence"

instance : Source Reread where
  look v := .ok v.look
  isNull v := v.value.isNull
  single v := v.value.readSingle
  choice v := v.value.choice.map fun c => (c.1, c.2.map Reread.mk)
  pass _ := .ok ()
  surplus? read size := some (.wrongLength size (surplusText read))

end Reread

end Reading

end SlideDeck
