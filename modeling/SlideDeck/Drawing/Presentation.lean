import SlideDeck.Drawing.Content

/-! A presentation that carries out commands one by one. It refuses a command that does not fit
what is there: an id that is taken, a surface out of turn, an object that is not on the page in
work, a second text or an empty one, a style for a stretch that is no piece of the text. -/

namespace SlideDeck.Drawing

structure Shape where
  id : String
  kind : ShapeKind
  frame : Rect
  align : Option Align
  fill : Option Color
  content : Option Content
deriving DecidableEq

namespace Shape

def blank (id : String) (kind : ShapeKind) (frame : Rect) (align : Option Align) : Shape :=
  ⟨id, kind, frame, align, none, none⟩

def insert? (sh : Shape) (text : String) : Option Shape :=
  if sh.content.isNone && !text.isEmpty then some { sh with content := some (.plain text) }
  else none

def restyle? (sh : Shape) (op : Op) : Option Shape := do
  let c ← sh.content
  let extent ← op.extent?
  if extent.fits c.text then some { sh with content := some (c.restyle op) } else none

def draw? (sh : Shape) (op : Op) : Option Shape :=
  match op with
  | .setFill _ .shape color => some { sh with fill := some color }
  | .insertText _ text => sh.insert? text
  | _ => sh.restyle? op

end Shape

structure Page where
  id : String
  background : Option Color := none
  shapes : List Shape := []
deriving DecidableEq

namespace Page

def ids (g : Page) : List String := g.shapes.map Shape.id ++ [g.id]

def push (g : Page) (sh : Shape) : Page := { g with shapes := sh :: g.shapes }

def edit? (op : Op) : List Shape → Option (List Shape)
  | [] => none
  | sh :: rest =>
    if sh.id = op.objectId then (sh.draw? op).map (· :: rest) else (edit? op rest).map (sh :: ·)

def draw? (g : Page) (op : Op) : Option Page :=
  match op with
  | .createSurface .. => none
  | .createShape id surface kind frame align =>
    if g.id = surface then some (g.push (.blank id kind frame align)) else none
  | .setFill id .page color =>
    if g.id = id then some { g with background := some color } else none
  | _ => (edit? op g.shapes).map fun shapes => { g with shapes := shapes }

end Page

def Op.created? : Op → Option String
  | .createSurface id _ => some id
  | .createShape id _ _ _ _ => some id
  | _ => none

/-- Pages, last one first; that is the page in work. -/
structure Presentation where
  pages : List Page
deriving DecidableEq

namespace Presentation

def empty : Presentation := ⟨[]⟩

def ids (p : Presentation) : List String := p.pages.flatMap Page.ids

/-- Carries out a command. Besides new pages it can be about the page in work only. -/
def draw? (p : Presentation) (op : Op) : Option Presentation :=
  if op.created?.any (p.ids.contains ·) then none
  else
    match op, p.pages with
    | .createSurface id index, pages =>
      if index = pages.length then some ⟨{ id := id } :: pages⟩ else none
    | _, [] => none
    | op, g :: rest => (g.draw? op).map fun g => ⟨g :: rest⟩

def replay? (p : Presentation) (ops : List Op) : Option Presentation := ops.foldlM draw? p

end Presentation

end SlideDeck.Drawing
