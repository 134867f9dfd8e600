import SlideDeck.Json.Value

/-! Values inside of a JSON value, each at the path of keys that leads to it. -/

namespace SlideDeck.Json

def isRecord : Json → Bool
  | .record _ => true
  | _ => false

def member? (key : String) : Json → Option Json
  | .record members => members.lookup key
  | _ => none

def valueAt? (v : Json) : List String → Option Json
  | [] => some v
  | key :: path => (v.member? key).bind (·.valueAt? path)

def text? : Json → Option String
  | .text s => some s
  | _ => none

def nat? : Json → Option Nat
  | .int n => n.toNat?
  | _ => none

/-- JSON has no numbers that are not finite; null is written for them. -/
def finite? (x : Float) : Option Float := if x.isFinite then some x else none

def double? : Json → Option Float
  | .double x => finite? x
  | _ => none

def textAt? (v : Json) (path : List String) : Option String := (v.valueAt? path).bind text?

def natAt? (v : Json) (path : List String) : Option Nat := (v.valueAt? path).bind nat?

def doubleAt? (v : Json) (path : List String) : Option Float := (v.valueAt? path).bind double?

end SlideDeck.Json
