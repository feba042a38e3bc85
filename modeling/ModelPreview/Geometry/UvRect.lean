/-!
# Rectangles in texture space

A rectangle goes from its top-left corner `(u0, v0)` to its bottom-right corner `(u1, v1)`.
-/

namespace ModelPreview

/-- A point in texture space. -/
structure Uv where
  /-- Horizontal coordinate. -/
  u : Float32
  /-- Vertical coordinate. -/
  v : Float32
  deriving DecidableEq, Repr, Inhabited, BEq

/-- A rectangle in texture space. -/
structure UvRect where
  /-- Left side. -/
  u0 : Float32
  /-- Top side. -/
  v0 : Float32
  /-- Right side. -/
  u1 : Float32
  /-- Bottom side. -/
  v1 : Float32
  deriving DecidableEq, Repr, Inhabited, BEq

namespace UvRect

/-- The whole texture. -/
def full : UvRect := ⟨0, 0, 1, 1⟩

/-- The four sides in order. -/
def toList (r : UvRect) : List Float32 := [r.u0, r.v0, r.u1, r.v1]

/-- Apply a function to every side. -/
def mapSides (f : Float32 → Float32) (r : UvRect) : UvRect := ⟨f r.u0, f r.v0, f r.u1, f r.v1⟩

/-- Carry a point of the unit square into the rectangle. -/
def map (r : UvRect) (p : Uv) : Uv := ⟨r.u0 + p.u * (r.u1 - r.u0), r.v0 + p.v * (r.v1 - r.v0)⟩

/-- The corners in the order top left, bottom left, bottom right, top right. -/
def corners (r : UvRect) : List Uv := [⟨r.u0, r.v0⟩, ⟨r.u0, r.v1⟩, ⟨r.u1, r.v1⟩, ⟨r.u1, r.v0⟩]

end UvRect
end ModelPreview
