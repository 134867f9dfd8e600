import SlideDeck.Reading.Fields
import SlideDeck.Theme.Registry

/-! Reading themes and assignments of themes. -/

namespace SlideDeck.Reading

variable {τ : Type} [Source τ]

def color : Reader τ Color := fun v => do
  match Color.read (← text v) with
  | .ok c => .ok c
  | .error fault => .error (.invalid fault)

def category : Reader τ Category := variant Category.names

def textStyle : Reader τ TextStyle :=
  record "struct TextStyle"
    (TextStyle.mk <$> .required "fontFamily" text <*> .required "fontSize" single <*>
      .orElse "bold" flag false <*> .required "color" color)

def palette : Reader τ Palette :=
  record "struct ThemeColors"
    (Palette.mk <$> .required "background" color <*> .required "primary" color <*>
      .required "card" color <*> .required "text" color)

def typography : Reader τ Typography :=
  record "struct Typography"
    (Typography.mk <$> .required "header" textStyle <*> .required "body" textStyle <*>
      .required "footer" textStyle)

def theme : Reader τ Theme :=
  record "struct Theme"
    (Theme.mk <$> .required "name" text <*> .required "category" category <*>
      .required "colors" palette <*> .required "typography" typography)

def misfitIn (key rest : List Char) (misfit : Misfit) : Misfit :=
  let (line, column) := Json.endPosition (key.take (key.length - rest.length))
  .inText misfit line column

def indexOfNumber (key rest : List Char) : Json.Number → Except Misfit Nat
  | .whole n =>
    if 0 ≤ n then .ok n.toNat else .error (misfitIn key rest (.wrongValue (.whole n) "usize"))
  | .real x => .error (misfitIn key rest (.wrongType (.real x) "usize"))

/-- The index that a key stands for. A key that starts like a number has to be one that is an
index, with nothing behind it. -/
def indexOfKey (key : String) : Except Misfit Nat :=
  let cs := key.toList
  if Json.Number.startsWithDigit cs || cs.head? = some '-' then
    match Json.Number.read cs with
    | .ok (n, rest) => do
      let i ← indexOfNumber cs rest n
      if rest.isEmpty then .ok i else .error .indexKey
    | .error stop =>
      let (line, column) := stop.position cs
      .error (.inText (.badNumber stop.fault) line column)
  else .error .indexKey

def slideThemes : Reader τ (List (Nat × String)) := fun v => do
  match ← Source.look v with
  | .record ms => ms.mapM fun m => return (← indexOfKey (← m.1), ← text m.2)
  | other => .error (.wrongType other.found "a map")

def assignment : Reader τ Assignment :=
  record "struct ThemeAssignment"
    ((fun id (slides : List (Nat × String)) =>
        slides.foldl (fun a e => a.set e.1 e.2) (Assignment.ofId id)) <$>
      .required "global" text <*> .orElse "overrides" slideThemes [])

end SlideDeck.Reading
