import SlideDeck.Drawing.Content
import SlideDeck.Text.Units

/-! A presentation that refuses only to create an object whose id is taken. What is for an object
that is not there has no effect. `P`, `S` and `U` are what is known of a page, of a shape and of a
unit of text. -/

namespace SlideDeck.Drawing

structure Figure (S U : Type) where
  id : String
  properties : S
  text : String
  looks : List U

structure Surface (P S U : Type) where
  id : String
  properties : P
  figures : List (Figure S U)

structure Board (P S U : Type) where
  surfaces : List (Surface P S U)

variable {P S U P' S' U' : Type}

namespace Figure

def blank (id : String) (properties : S) : Figure S U := ⟨id, properties, "", []⟩

def update (f : S → S) (fig : Figure S U) : Figure S U :=
  { fig with properties := f fig.properties }

/-- Inserts text at a unit, if there is a character that begins there or the text ends there. -/
def insertAt (plain : U) (unit : Nat) (new : String) (fig : Figure S U) : Figure S U :=
  match Text.splitUnits unit fig.text.toList with
  | some (before, after) =>
    { fig with
      text := .ofList before ++ new ++ .ofList after
      looks := fig.looks.take unit ++
        (List.replicate (Text.units new) plain ++ fig.looks.drop unit) }
  | none => fig

def prepend (plain : U) (new : String) (fig : Figure S U) : Figure S U :=
  { fig with
    text := new ++ fig.text
    looks := List.replicate (Text.units new) plain ++ fig.looks }

def restyle (extent : Extent) (f : U → U) (fig : Figure S U) : Figure S U :=
  { fig with
    looks := fig.looks.mapIdx fun unit look => if extent.covers unit then f look else look }

def map (g : S → S') (h : U → U') (fig : Figure S U) : Figure S' U' :=
  ⟨fig.id, g fig.properties, fig.text, fig.looks.map h⟩

end Figure

def Surface.map (f : P → P') (g : S → S') (h : U → U') (s : Surface P S U) : Surface P' S' U' :=
  ⟨s.id, f s.properties, s.figures.map (Figure.map g h)⟩

namespace Board

def map (f : P → P') (g : S → S') (h : U → U') (b : Board P S U) : Board P' S' U' :=
  ⟨b.surfaces.map (Surface.map f g h)⟩

def ids (b : Board P S U) : List String :=
  b.surfaces.flatMap fun s => s.id :: s.figures.map Figure.id

def addSurface? (index : Nat) (id : String) (properties : P) (b : Board P S U) :
    Option (Board P S U) :=
  if id ∈ b.ids then none
  else some ⟨b.surfaces.take index ++ ⟨id, properties, []⟩ :: b.surfaces.drop index⟩

def onSurface (id : String) (f : Surface P S U → Surface P S U) (b : Board P S U) : Board P S U :=
  ⟨b.surfaces.map fun s => if s.id = id then f s else s⟩

def updateSurface (id : String) (f : P → P) : Board P S U → Board P S U :=
  onSurface id fun s => { s with properties := f s.properties }

def putFigure (surface : String) (fig : Figure S U) : Board P S U → Board P S U :=
  onSurface surface fun s => { s with figures := s.figures ++ [fig] }

def addFigure? (surface : String) (fig : Figure S U) (b : Board P S U) : Option (Board P S U) :=
  if fig.id ∈ b.ids then none else some (b.putFigure surface fig)

def onFigure (id : String) (f : Figure S U → Figure S U) (b : Board P S U) : Board P S U :=
  ⟨b.surfaces.map fun s =>
    { s with figures := s.figures.map fun fig => if fig.id = id then f fig else fig }⟩

end Board

structure ShapeLook where
  kind : ShapeKind
  frame : Rect
  align : Option Align
  fill : Option Color
deriving DecidableEq

abbrev Drawn := Board (Option Color) ShapeLook Look

namespace Drawn

def draw? (b : Drawn) (op : Op) : Option Drawn :=
  match op with
  | .createSurface id index => b.addSurface? index id none
  | .setFill id .page color => some (b.updateSurface id fun _ => some color)
  | .setFill id .shape color => some (b.onFigure id (.update ({ · with fill := some color })))
  | .createShape id surface kind frame align =>
    b.addFigure? surface (.blank id ⟨kind, frame, align, none⟩)
  | .insertText id text => some (b.onFigure id (.prepend {} text))
  | .styleText id extent _ => some (b.onFigure id (.restyle extent op.restyle))
  | .alignParagraphs id extent _ => some (b.onFigure id (.restyle extent op.restyle))
  | .addBullets id span _ => some (b.onFigure id (.restyle (.fixed span) op.restyle))

end Drawn

end SlideDeck.Drawing
