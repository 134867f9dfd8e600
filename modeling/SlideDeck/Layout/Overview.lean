import SlideDeck.Layout.Slide

/-! An overview of a deck: what its slides are, which themes they ask for, and their layouts. A
layout names the theme that the slide has in fact. -/

namespace SlideDeck.Layout

structure SlideOverview where
  index : Nat
  title : Option String
  themeId : String
  blockCount : Nat
  layout : Descriptor

structure Overview where
  slideCount : Nat
  canvas : Canvas
  slides : List SlideOverview

namespace Overview

def ofLayouts (doc : Document) (layouts : List Descriptor) (a : Assignment) (canvas : Canvas) :
    Overview where
  slideCount := doc.size
  canvas := canvas
  slides := (doc.slides.zip layouts).mapIdx fun i (slide, layout) =>
    ⟨i, slide.title, a.idFor i, slide.blocks.length, layout⟩

def ofDocument (doc : Document) (s : Settings) : Overview :=
  ofLayouts doc (document doc s) s.assignment s.canvas

end Overview

end SlideDeck.Layout
