import SlideDeck.Reading.Misfit

/-! Notations that data is read from. A reader asks a source for what it expects; the source
knows its own forms of numbers and of names. -/

namespace SlideDeck.Reading

/-- A value as it stands, with nothing particular expected of it. A key that cannot be read is a
misfit at its place. -/
inductive View (τ : Type)
  | null
  | flag (b : Bool)
  | whole (n : Int)
  | real (x : Float)
  | text (s : String)
  | list (items : List τ)
  | record (members : List (Except Misfit String × τ))

def View.found {τ : Type} : View τ → Found
  | .null => .null
  | .flag b => .flag b
  | .whole n => .whole n
  | .real x => .real x
  | .text s => .text s
  | .list _ => .list
  | .record _ => .record

class Source (τ : Type) where
  look : τ → Except Misfit (View τ)
  isNull : τ → Bool
  single : τ → Except Misfit Float32
  /-- The name of a variant, and the value that stands beside it if it has to be null. -/
  choice : τ → Except Misfit (String × Option τ)
  pass : τ → Except Misfit Unit
  /-- What is wrong with a list that has more items than have been read. -/
  surplus? : (read : Nat) → (size : Nat) → Option Misfit

abbrev Reader (τ α : Type) := τ → Except Misfit α

section

variable {τ α : Type} [Source τ]

def text : Reader τ String := fun v => do
  match ← Source.look v with
  | .text s => .ok s
  | other => .error (.wrongType other.found "a string")

def flag : Reader τ Bool := fun v => do
  match ← Source.look v with
  | .flag b => .ok b
  | other => .error (.wrongType other.found "a boolean")

def single : Reader τ Float32 := Source.single

def whole (bound : Nat) (what : String) : Reader τ Nat := fun v => do
  match ← Source.look v with
  | .whole n =>
    if 0 ≤ n ∧ n < bound then .ok n.toNat else .error (.wrongValue (.whole n) what)
  | other => .error (.wrongType other.found what)

def byte : Reader τ UInt8 := fun v => UInt8.ofNat <$> whole 256 "u8" v

def index : Reader τ Nat := whole 0x10000000000000000 "usize"

def optional (r : Reader τ α) : Reader τ (Option α) := fun v =>
  if Source.isNull v then .ok none else some <$> r v

def items (what : String) : Reader τ (List τ) := fun v => do
  match ← Source.look v with
  | .list items => .ok items
  | other => .error (.wrongType other.found what)

def list (r : Reader τ α) : Reader τ (List α) := fun v => do
  (← items "a sequence" v).mapM r

/-- Ends the reading of a list of `size` items of which no more than `read` are asked for. -/
def finish (τ : Type) [Source τ] (read size : Nat) : Except Misfit Unit :=
  if read < size then
    match Source.surplus? τ read size with
    | some misfit => .error misfit
    | none => .ok ()
  else .ok ()

def vector (n : Nat) (r : Reader τ α) : Reader τ (Vector α n) := fun v => do
  let what := "an array of length " ++ Text.numeral n
  let all ← items what v
  let read ← (all.take n).mapM r
  if h : read.length = n then
    finish τ n all.length
    return ⟨read.toArray, by simp [h]⟩
  else .error (.wrongLength read.length what)

def members (r : Reader τ α) : Reader τ (List (String × α)) := fun v => do
  match ← Source.look v with
  | .record ms => ms.mapM fun (key, v) => return (← key, ← r v)
  | other => .error (.wrongType other.found "a map")

def variant (names : List (String × α)) : Reader τ α := fun v => do
  let (name, beside) ← Source.choice v
  match names.lookup name, beside with
  | none, _ => .error (.unknownVariant name (names.map Prod.fst))
  | some a, none => .ok a
  | some a, some v =>
    match ← Source.look v with
    | .null => .ok a
    | other => .error (.wrongType other.found "unit")

end

end SlideDeck.Reading
