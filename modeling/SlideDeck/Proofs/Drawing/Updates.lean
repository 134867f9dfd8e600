import Mathlib.Data.List.Basic
import SlideDeck.Drawing.Remote
import SlideDeck.Json.Drawing
import SlideDeck.Proofs.Json.Path

/-! The updates that requests make. Each sets the properties that its command is about: their paths
are its mask, their values are in its object, and nothing else is in either. -/

namespace SlideDeck.Drawing

section Masks

end Masks

structure Update.Sets (u : Update) (new : Properties) : Prop where
  mask : ∀ path, path ∈ u.mask ↔ (new path).isSome = true
  object : ∀ path ∈ u.mask, u.object.valueAt? (keys path) = new path
  covered : u.object.CoveredBy (u.mask.map keys)

def Properties.over (new old : Properties) : Properties := fun path => (new path).or (old path)

theorem Update.Sets.apply {u : Update} {new : Properties} (h : u.Sets new) (old : Properties) :
    u.apply old = new.over old := by
  funext path
  unfold Update.apply Properties.over
  split
  next hmem =>
    obtain ⟨v, hv⟩ := Option.isSome_iff_exists.1 ((h.mask path).1 hmem)
    rw [h.object path hmem, hv, Option.some_or]
  next hmem =>
    have hnone : new path = none := by
      cases hv : new path with
      | none => rfl
      | some v => exact absurd ((h.mask path).2 (by rw [hv, Option.isSome_some])) hmem
    rw [hnone, Option.none_or]

section Properties

def colorValue (c : Color) : Json := (Request.rgbColor c).sortMembers

def pageProperties (background : Option Color) : Properties := fun path =>
  if path = "pageBackgroundFill.solidFill.color" then background.map colorValue else none

def hidden : Json := .record [("propertyState", .text "NOT_RENDERED")]

/-- A shape with a fill has no outline. -/
def shapeProperties (fill : Option Color) (align : Option Align) : Properties := fun path =>
  if path = "shapeBackgroundFill.solidFill.color" then fill.map colorValue
  else if path = "outline" then fill.map fun _ => hidden
  else if path = "contentAlignment" then
    align.map fun
      | .top => .text "TOP"
      | .middle => .text "MIDDLE"
  else none

end Properties

section Objects

end Objects

end SlideDeck.Drawing
