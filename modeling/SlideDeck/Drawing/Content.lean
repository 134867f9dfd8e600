import SlideDeck.Drawing.Op

/-! The text of an object as commands build it up. Every unit of the text has a look. A command
changes the look of the units in its extent, and there only what it sets. -/

namespace SlideDeck.Drawing

namespace Extent

def covers : Extent → Nat → Bool
  | .all, _ => true
  | .fixed span, unit => span.covers unit

def fits : Extent → String → Bool
  | .all, _ => true
  | .fixed span, text => (span.slice text).isSome

end Extent

def StyleChange.over (new old : StyleChange) : StyleChange where
  fontFamily := new.fontFamily.or old.fontFamily
  fontSize := new.fontSize.or old.fontSize
  bold := new.bold.or old.bold
  color := new.color.or old.color

structure Look where
  style : StyleChange := {}
  align : Option ParagraphAlign := none
  bullet : Option String := none
deriving DecidableEq

namespace Op

def extent? : Op → Option Extent
  | .styleText _ extent _ => some extent
  | .alignParagraphs _ extent _ => some extent
  | .addBullets _ span _ => some (.fixed span)
  | _ => none

def restyle : Op → Look → Look
  | .styleText _ _ change, look => { look with style := change.over look.style }
  | .alignParagraphs _ _ align, look => { look with align := some align }
  | .addBullets _ _ preset, look => { look with bullet := some preset }
  | _, look => look

def lookAt (unit : Nat) (look : Look) (op : Op) : Look :=
  if op.extent?.any (·.covers unit) then op.restyle look else look

end Op

structure Content where
  text : String
  looks : List Look
deriving DecidableEq

namespace Content

def plain (text : String) : Content := ⟨text, List.replicate (Text.units text) {}⟩

def restyle (c : Content) (op : Op) : Content :=
  { c with looks := c.looks.mapIdx fun unit look => op.lookAt unit look }

def step (id : String) (c : Option Content) (op : Op) : Option Content :=
  if op.objectId = id then
    match op with
    | .insertText _ text => some (plain text)
    | _ => c.map (·.restyle op)
  else c

/-- The text of an object after commands, from the last one inserted on. -/
def after? (id : String) (ops : List Op) : Option Content := ops.foldl (step id) none

end Content

end SlideDeck.Drawing
