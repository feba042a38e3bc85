/-!
# Colours and extents

The colour behind the model and the size of what is drawn on.
-/

namespace ModelPreview

/-- A colour with four components. -/
structure Color where
  /-- Red. -/
  r : Float
  /-- Green. -/
  g : Float
  /-- Blue. -/
  b : Float
  /-- Opacity. -/
  a : Float
  deriving DecidableEq, Repr

/-- The components in order. -/
def Color.toList (c : Color) : List Float := [c.r, c.g, c.b, c.a]

/-- A width and a height in pixels. -/
structure Extent where
  /-- The width. -/
  width : UInt32
  /-- The height. -/
  height : UInt32
  deriving DecidableEq, Repr, Inhabited

namespace Extent

/-- Whether one of the sides has no length. -/
def isEmpty (e : Extent) : Bool := e.width = 0 || e.height = 0

/-- The extent with sides of at least one pixel. -/
def atLeastOne (e : Extent) : Extent := ⟨max 1 e.width, max 1 e.height⟩

end Extent
end ModelPreview
