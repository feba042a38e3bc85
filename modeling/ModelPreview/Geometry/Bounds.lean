import ModelPreview.Geometry.Vector

/-!
# Intervals and bounding boxes

A box is the product of three intervals.  Both start empty, turned inside out, and grow to contain
the points that are included one after the other.
-/

namespace ModelPreview

/-- The numbers from `min` to `max` along one axis. -/
structure Interval where
  /-- Lower end. -/
  min : Float32
  /-- Upper end. -/
  max : Float32
  deriving DecidableEq, Repr, Inhabited

namespace Interval

/-- The interval without numbers. -/
def empty : Interval := ⟨Single.infinity, -Single.infinity⟩

/-- The distance between the ends. -/
def size (i : Interval) : Float32 := i.max - i.min

/-- The middle of the interval. -/
def center (i : Interval) : Float32 := (i.min + i.max) * 0.5

/-- Whether the interval has no numbers. -/
def isEmpty (i : Interval) : Bool := i.max < i.min

/-- The interval grown to contain a number. -/
def insert (i : Interval) (x : Float32) : Interval :=
  ⟨Scalar.least i.min x, Scalar.greatest i.max x⟩

instance : BEq Interval := ⟨fun i j => i.min == j.min && i.max == j.max⟩

end Interval

/-- A box along the axes; it may be flat. -/
structure Bounds where
  /-- Extent along the first axis. -/
  x : Interval
  /-- Extent along the second axis. -/
  y : Interval
  /-- Extent along the third axis. -/
  z : Interval
  deriving DecidableEq, Repr, Inhabited

namespace Bounds

/-- The box without points. -/
def empty : Bounds := ⟨.empty, .empty, .empty⟩

/-- The box grown to contain a point. -/
def insert (b : Bounds) (p : Vec3 Float32) : Bounds :=
  ⟨b.x.insert p.x, b.y.insert p.y, b.z.insert p.z⟩

/-- The smallest box that contains all points of a list. -/
def enclosing (points : List (Vec3 Float32)) : Bounds := points.foldl insert empty

/-- Whether the box has no points. -/
def isEmpty (b : Bounds) : Bool := b.x.isEmpty || b.y.isEmpty || b.z.isEmpty

/-- The middle of the box. -/
def center (b : Bounds) : Vec3 Float32 := ⟨b.x.center, b.y.center, b.z.center⟩

/-- The length of the diagonal; zero for the empty box. -/
def diagonal (b : Bounds) : Float32 :=
  if b.isEmpty then 0 else (Vec3.mk b.x.size b.y.size b.z.size).length

instance : BEq Bounds := ⟨fun a b => a.x == b.x && a.y == b.y && a.z == b.z⟩

theorem enclosing_append (ps qs : List (Vec3 Float32)) :
    enclosing (ps ++ qs) = qs.foldl insert (enclosing ps) := by
  simp [enclosing]

end Bounds
end ModelPreview
