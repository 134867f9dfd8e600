import SlideDeck.Decimal.Notation
import SlideDeck.Fault
import SlideDeck.Json.Number
import SlideDeck.Text.Quoted

/-! Why data cannot be read as what was asked for. -/

namespace SlideDeck.Reading

inductive Found
  | null
  | flag (b : Bool)
  | whole (n : Int)
  | real (x : Float)
  | text (s : String)
  | list
  | record

inductive Misfit
  | wrongType (found : Found) (expected : String)
  | wrongValue (found : Found) (expected : String)
  | wrongLength (size : Nat) (expected : String)
  | missingField (name : String)
  | duplicateField (name : String)
  | unknownVariant (name : String) (known : List String)
  | indexKey
  | badNumber (fault : Json.Number.Fault)
  | inText (misfit : Misfit) (line column : Nat)
  | invalid (fault : Fault)
  | noChoice
  | emptyChoice
  | noNumber
  | numberTooLarge
  | noInteger
  | noHex
  | missingTrail
  | expectedTrail
  | unexpectedTrail

structure Wording where
  null : String
  real : Decimal.Notation

def Found.describe (w : Wording) : Found → String
  | .null => w.null
  | .flag b => "boolean `" ++ (if b then "true" else "false") ++ "`"
  | .whole n =>
    "integer `" ++ (if n < 0 then "-" else "") ++ Text.numeral n.natAbs ++ "`"
  | .real x => "floating point `" ++ w.real.render (.ofDouble x) ++ "`"
  | .text s => "string " ++ Text.quoted s
  | .list => "sequence"
  | .record => "map"

def inTicks (s : String) : String := "`" ++ s ++ "`"

def alternatives : List String → String
  | [a, b] => inTicks a ++ " or " ++ inTicks b
  | names => "one of " ++ ", ".intercalate (names.map inTicks)

def Misfit.message (w : Wording) : Misfit → String
  | .wrongType found expected =>
    "invalid type: " ++ found.describe w ++ ", expected " ++ expected
  | .wrongValue found expected =>
    "invalid value: " ++ found.describe w ++ ", expected " ++ expected
  | .wrongLength size expected =>
    "invalid length " ++ Text.numeral size ++ ", expected " ++ expected
  | .missingField name => "missing field " ++ inTicks name
  | .duplicateField name => "duplicate field " ++ inTicks name
  | .unknownVariant name known =>
    "unknown variant " ++ inTicks name ++ ", expected " ++ alternatives known
  | .indexKey => "invalid value: expected key to be a number in quotes"
  | .badNumber fault => fault.message
  | .inText misfit line column =>
    misfit.message w ++ " at line " ++ Text.numeral line ++ " column " ++ Text.numeral column
  | .invalid fault => fault.message
  | .noChoice => "expected a string or an object"
  | .emptyChoice => "expected a nonempty object"
  | .noNumber => "error parsing number"
  | .numberTooLarge => "error parsing number: too large"
  | .noInteger => "error parsing integer"
  | .noHex => "error parsing hex"
  | .missingTrail => "missing unicode trail surrogate"
  | .expectedTrail => "expecting unicode trail surrogate"
  | .unexpectedTrail => "unexpected unicode trail surrogate"

end SlideDeck.Reading
