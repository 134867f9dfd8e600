import SlideDeck.Document
import SlideDeck.Reading.Fields
import SlideDeck.Reading.Json

/-! Reading documents. What a block is stands under `type`, or first in a list. -/

namespace SlideDeck.Reading

section

variable {τ : Type} [Source τ]

def run : Reader τ Run :=
  record "struct StyledRun" (Run.mk <$> .required "text" text <*> .required "bold" flag)

def runs : Reader τ (List Run) := list run

def cell : Reader τ Cell := record "struct Cell" (Cell.mk <$> .required "runs" runs)

def row : Reader τ Row :=
  record "struct Row"
    (Row.mk <$> .required "cells" (list cell) <*> .required "isHeaderRow" flag)

end

structure BlockForm where
  what : String
  fields : Fields Reread Block

def blockForms : List (String × BlockForm) :=
  [("header", ⟨"struct variant Block::Header",
      Block.heading <$> .required "level" byte <*> .required "runs" runs⟩),
    ("text", ⟨"struct variant Block::Text",
      Block.text <$> .required "runs" runs <*> .required "isBullet" flag⟩),
    ("table", ⟨"struct variant Block::Table", Block.table <$> .required "rows" (list row)⟩)]

def blockForm (tag : Json) : Except Misfit BlockForm :=
  match tag with
  | .text name =>
    match blockForms.lookup name with
    | some form => .ok form
    | none => .error (.unknownVariant name (blockForms.map Prod.fst))
  | other => .error (.wrongType other.look.found "variant identifier")

def block : Reader Json Block
  | .record ms =>
    match ms.lookup "type" with
    | some tag => do
      let form ← blockForm tag
      form.fields.ofMembers
        ((ms.filter fun m => m.1 != "type").map fun m => (.ok m.1, Reread.mk m.2))
    | none => .error (.missingField "type")
  | .list (tag :: vs) => do
    let form ← blockForm tag
    form.fields.ofItems form.what (vs.map Reread.mk)
  | .list [] => .error (.missingField "type")
  | other => .error (.wrongType other.look.found "internally tagged enum Block")

def slide : Reader Json Slide :=
  record "struct Slide" (Slide.mk <$> .option "title" text <*> .required "blocks" (list block))

def document : Reader Json Document :=
  record "struct Document" (Document.mk <$> .required "slides" (list slide))

end SlideDeck.Reading
