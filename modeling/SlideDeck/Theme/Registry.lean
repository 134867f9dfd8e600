import SlideDeck.Theme.Builtin
import Std.Data.ExtTreeMap

/-! Registries of themes by id, and which theme each slide of a deck has. A registry keeps a
theme for slides whose id it does not know: the one registered under `default`. -/

namespace SlideDeck

def defaultId : String := "default"

structure Registry where
  themes : Std.ExtTreeMap String Theme
  fallback : Theme

namespace Registry

/-- A registry of the given themes; of equal ids the last counts. -/
def ofList (entries : List (String × Theme)) : Except Fault Registry :=
  let themes := entries.foldl (fun m e => m.insert e.1 e.2) (∅ : Std.ExtTreeMap String Theme)
  match themes[defaultId]? with
  | some fallback => .ok ⟨themes, fallback⟩
  | none => .error .missingDefaultTheme

def builtin : Registry where
  themes := Theme.builtin.foldl (fun m e => m.insert e.1 e.2) ∅
  fallback := Theme.professionalCard

def get? (r : Registry) (id : String) : Option Theme := r.themes[id]?

def contains (r : Registry) (id : String) : Bool := r.themes.contains id

def insert (r : Registry) (id : String) (t : Theme) : Registry where
  themes := r.themes.insert id t
  fallback := if id = defaultId then t else r.fallback

def toList (r : Registry) : List (String × Theme) := r.themes.toList

def ids (r : Registry) : List String := r.toList.map Prod.fst

def byCategory (r : Registry) : List (Category × List (String × Theme)) :=
  (Category.all.map fun c => (c, r.toList.filter fun e => e.2.category == c)).filter
    fun group => !group.2.isEmpty

def resolve (r : Registry) (id : String) : Theme := (r.get? id).getD r.fallback

end Registry

structure Assignment where
  deck : String
  slides : Std.ExtTreeMap Nat String
deriving DecidableEq

namespace Assignment

def ofId (id : String) : Assignment := ⟨id, ∅⟩

def default : Assignment := ofId defaultId

def set (a : Assignment) (slide : Nat) (id : String) : Assignment :=
  { a with slides := a.slides.insert slide id }

def idFor (a : Assignment) (slide : Nat) : String := (a.slides[slide]?).getD a.deck

def apply (a : Assignment) (id : String) (selected : List Nat) : Assignment :=
  if selected.isEmpty then { a with deck := id } else selected.foldl (fun a i => a.set i id) a

def clear (a : Assignment) (slide : Nat) : Assignment :=
  { a with slides := a.slides.erase slide }

def toList (a : Assignment) : List (Nat × String) := a.slides.toList

def ids (a : Assignment) : List String := a.deck :: a.toList.map Prod.snd

end Assignment

def Registry.resolveFor (r : Registry) (slide : Nat) (deck : String)
    (slides : Std.ExtTreeMap Nat String) : Theme :=
  match slides[slide]? with
  | some id => r.resolve id
  | none => r.resolve deck

def Registry.themeFor (r : Registry) (a : Assignment) (slide : Nat) : Theme :=
  r.resolveFor slide a.deck a.slides

end SlideDeck
