import ModelPreview.Model.Basic

/-!
# Placing an element in space

The corners of an element are numbered by three bits, one per axis, and moved by the turn of the
element.  The four corners of a side are listed as seen from outside, so that the two triangles
drawn for it run counter-clockwise.

Main definitions:

- `Transform`: the turn and stretch of an element about a point.
- `boxCorner` and `Direction.corners`: the corners of an element and of its sides.
-/

namespace ModelPreview

/-- A stretch followed by a turn about a point. -/
structure Transform (α : Type u) where
  /-- The point that stays in place. -/
  origin : Vec3 α
  /-- The turn. -/
  rotor : Rotor α
  /-- The stretch along the axes. -/
  scale : Vec3 α
  deriving Repr

namespace Transform

variable [Scalar α]

/-- The transform of an element that is not turned. -/
def identity : Transform α := ⟨0, .identity, .splat 1⟩

/-- The image of a point. -/
def point (t : Transform α) (p : Vec3 α) : Vec3 α :=
  t.origin + t.rotor.rotate ((p - t.origin) * t.scale)

/-- The image of an outward normal. -/
def normal (t : Transform α) (n : Vec3 α) : Vec3 α := (t.rotor.rotate n).unit

/-- The stretch that makes up for the loss of extent across an axis. -/
def stretch (axis : Axis) (c : α) : Vec3 α := axis.unit.map fun a => (1 - a) / c + a

end Transform

/-- The stretch that goes with a turn.  A quarter turn leaves nothing to stretch. -/
def Rotation.stretch (r : Rotation) : Vec3 Float32 :=
  let c := (Single.radians r.angle).cos.abs
  if r.rescale && Single.epsilon < c then Transform.stretch r.axis c else .splat 1

/-- The transform of a turn. -/
def Rotation.transform (r : Rotation) : Transform Float32 :=
  let half := Single.radians r.angle * 0.5
  ⟨r.origin, .about r.axis.unit half.sin half.cos, r.stretch⟩

/-- The transform of an element. -/
def Element.transform (e : Element) : Transform Float32 :=
  match e.rotation with
  | none => .identity
  | some r => r.transform

/-! ## Corners -/

/-- Corner `i` of a box: bit 0 chooses `x`, bit 1 `y` and bit 2 `z`. -/
def cornerOf (lo hi : Vec3 α) (i : Fin 8) : Vec3 α :=
  ⟨if i.val.testBit 0 then hi.x else lo.x, if i.val.testBit 1 then hi.y else lo.y,
    if i.val.testBit 2 then hi.z else lo.z⟩

/-- Corner `i` of the box between two opposite corners, moved by a transform. -/
def boxCorner [Scalar α] (a b : Vec3 α) (t : Transform α) (i : Fin 8) : Vec3 α :=
  t.point (cornerOf (a.least b) (a.greatest b) i)

/-- The corners of a side as seen from outside: top left, bottom left, bottom right, top right. -/
def Direction.corners : Direction → List (Fin 8)
  | .up => [2, 6, 7, 3]
  | .down => [4, 0, 1, 5]
  | .north => [3, 1, 0, 2]
  | .south => [6, 4, 5, 7]
  | .east => [7, 5, 1, 3]
  | .west => [2, 0, 4, 6]

end ModelPreview
