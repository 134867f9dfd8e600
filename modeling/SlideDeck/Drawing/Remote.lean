import SlideDeck.Drawing.Board
import SlideDeck.Json.Path

/-! A slide service: a presentation that carries out requests, which are JSON. A property has a
dotted path. An update changes the properties whose paths are in its field mask, and no others; a
property that its object does not have is cleared. -/

namespace SlideDeck.Drawing

abbrev Properties := String → Option Json

structure Update where
  mask : List String
  object : Json

def paths (mask : String) : List String :=
  ((mask.toList.splitOn ',').filter (!·.isEmpty)).map String.ofList

def keys (path : String) : List String := (path.toList.splitOn '.').map String.ofList

def Update.apply (u : Update) (old : Properties) : Properties := fun path =>
  if path ∈ u.mask then u.object.valueAt? (keys path) else old path

namespace Remote

def extent? (range : Json) : Option Extent := do
  match ← range.textAt? ["type"] with
  | "ALL" => return .all
  | "FIXED_RANGE" => return .fixed ⟨← range.natAt? ["startIndex"], ← range.natAt? ["endIndex"]⟩
  | _ => none

end Remote

end SlideDeck.Drawing
