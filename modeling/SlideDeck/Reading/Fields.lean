import SlideDeck.Reading.Source

/-! Records with known fields. A record may be given by its members in any order, or as a list
of its fields in their own order. Of several misfits the first in the data counts; fields that
are missing come after all members. -/

namespace SlideDeck.Reading

abbrev Placed (α : Type) := Except (Nat × Misfit) α

namespace Placed

variable {α β : Type}

def mark (place : Nat) : Except Misfit α → Placed α
  | .ok a => .ok a
  | .error misfit => .error (place, misfit)

def unplaced : Placed α → Except Misfit α
  | .ok a => .ok a
  | .error (_, misfit) => .error misfit

def both : Placed (α → β) → Placed α → Placed β
  | .ok f, .ok a => .ok (f a)
  | .ok _, .error e => .error e
  | .error e, .ok _ => .error e
  | .error e, .error e' => .error (if e'.1 < e.1 then e' else e)

end Placed

inductive Absence (α : Type)
  | missing
  /-- This value, except in a list. -/
  | optional (a : α)
  | default (a : α)

/-- The data of a record: its members, or a list of which `size` says how long it should be. -/
inductive Form (τ : Type)
  | members (ms : List (Except Misfit String × τ))
  | items (vs : List τ) (size : String)

/-- The fields of a record; `read` reads them from field number `first` on. -/
structure Fields (τ α : Type) where
  names : List String
  read : (first : Nat) → Form τ → Placed α

def isNamed {τ : Type} (name : String) (m : Except Misfit String × τ) : Bool :=
  match m.1 with
  | .ok key => key == name
  | .error _ => false

namespace Fields

variable {τ α β : Type}

def field (name : String) (r : Reader τ α) (absence : Absence α) : Fields τ α where
  names := [name]
  read
    | first, .items vs size =>
      match vs[first]?, absence with
      | some v, _ => .mark first (r v)
      | none, .default a => .ok a
      | none, _ => .error (first, .wrongLength first size)
    | first, .members ms =>
      match ms.zipIdx.filter fun m => isNamed name m.1, absence with
      | [], .missing => .error (ms.length + first, .missingField name)
      | [], .optional a => .ok a
      | [], .default a => .ok a
      | [m], _ => .mark m.2 (r m.1.2)
      | m :: m' :: _, _ =>
        match r m.1.2 with
        | .ok _ => .error (m'.2, .duplicateField name)
        | .error misfit => .error (m.2, misfit)

def required (name : String) (r : Reader τ α) : Fields τ α := field name r .missing

def option [Source τ] (name : String) (r : Reader τ α) : Fields τ (Option α) :=
  field name (optional r) (.optional none)

def orElse (name : String) (r : Reader τ α) (a : α) : Fields τ α := field name r (.default a)

instance : Functor (Fields τ) where
  map f x := ⟨x.names, fun first form => (x.read first form).map f⟩

instance : Seq (Fields τ) where
  seq f x :=
    let x := x ()
    ⟨f.names ++ x.names, fun first form =>
      Placed.both (f.read first form) (x.read (first + f.names.length) form)⟩

def passOthers [Source τ] (names : List String) (ms : List (Except Misfit String × τ)) :
    Placed Unit :=
  ms.zipIdx.forM fun m => .mark m.2 do
    if names.contains (← m.1.1) then .ok () else Source.pass m.1.2

def ofMembers [Source τ] (fs : Fields τ α) (ms : List (Except Misfit String × τ)) :
    Except Misfit α :=
  Placed.unplaced
    (.both ((fs.read 0 (.members ms)).map fun a (_ : Unit) => a) (passOthers fs.names ms))

def sizeText (what : String) (n : Nat) : String :=
  what ++ " with " ++ Text.numeral n ++ if n == 1 then " element" else " elements"

def ofItems [Source τ] (fs : Fields τ α) (what : String) (vs : List τ) : Except Misfit α := do
  let a ← Placed.unplaced (fs.read 0 (.items vs (sizeText what fs.names.length)))
  finish τ fs.names.length vs.length
  return a

end Fields

def record {τ α : Type} [Source τ] (what : String) (fs : Fields τ α) : Reader τ α := fun v => do
  match ← Source.look v with
  | .record ms => fs.ofMembers ms
  | .list vs => fs.ofItems what vs
  | other => .error (.wrongType other.found what)

end SlideDeck.Reading
