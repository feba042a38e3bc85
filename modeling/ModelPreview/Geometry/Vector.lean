/-!
# Vectors and rotations

Vectors, rotations and boxes are written over any type of scalars, so that the same formulas run on
32-bit floating-point numbers and can be studied in exact arithmetic.  Every formula fixes the order
of its operations, which matters as soon as operations round.

Main definitions:

- `Scalar`: what is asked of the numbers.
- `Vec3`: vectors, with `Vec3.dot`, `Vec3.cross` and `Vec3.unit`.
- `Rotor`: a rotation given by an axis part and a scalar part, with `Rotor.rotate`.
-/

namespace ModelPreview

/-- Numbers with the operations the geometry needs. -/
class Scalar (α : Type u) extends Zero α, One α, Add α, Sub α, Mul α, Div α, Neg α where
  /-- The smaller of two numbers. -/
  least : α → α → α
  /-- The larger of two numbers. -/
  greatest : α → α → α
  /-- The square root. -/
  sqrt : α → α
  /-- Whether a number is finite and greater than zero. -/
  isPositive : α → Bool

namespace Scalar

/-- The number two. -/
def two [Scalar α] : α := 1 + 1

end Scalar

/-! ## The 32-bit scalars -/

namespace Single

/-- The smaller of two numbers; a NaN gives way to the other one. -/
def least (a b : Float32) : Float32 :=
  if a.isNaN then b else if b.isNaN then a else if a < b then a else b

/-- The larger of two numbers; a NaN gives way to the other one. -/
def greatest (a b : Float32) : Float32 :=
  if a.isNaN then b else if b.isNaN then a else if b < a then a else b

/-- The number moved into the range from `lo` to `hi`; a NaN stays. -/
def clamp (x lo hi : Float32) : Float32 :=
  if x < lo then lo else if hi < x then hi else x

/-- Radians of one degree. -/
def radiansPerDegree : Float32 := .ofBits 0x3c8efa35

/-- An angle in radians. -/
def radians (degrees : Float32) : Float32 := degrees * radiansPerDegree

/-- The distance from one to the next larger number. -/
def epsilon : Float32 := .ofBits 0x34000000

/-- Positive infinity. -/
def infinity : Float32 := .ofBits 0x7f800000

end Single

instance : Scalar Float32 where
  zero := 0
  one := 1
  least := Single.least
  greatest := Single.greatest
  sqrt := Float32.sqrt
  isPositive x := x.isFinite && 0 < x

/-! ## Vectors -/

/-- A vector or point in space. -/
structure Vec3 (α : Type u) where
  /-- First coordinate. -/
  x : α
  /-- Second coordinate. -/
  y : α
  /-- Third coordinate. -/
  z : α
  deriving DecidableEq, Repr, Inhabited

namespace Vec3

/-- Apply a function to every coordinate. -/
def map (f : α → β) (v : Vec3 α) : Vec3 β := ⟨f v.x, f v.y, f v.z⟩

/-- Combine two vectors coordinate by coordinate. -/
def zip (f : α → β → γ) (v : Vec3 α) (w : Vec3 β) : Vec3 γ := ⟨f v.x w.x, f v.y w.y, f v.z w.z⟩

/-- The vector with three equal coordinates. -/
def splat (a : α) : Vec3 α := ⟨a, a, a⟩

/-- The coordinates in order. -/
def toList (v : Vec3 α) : List α := [v.x, v.y, v.z]

instance [BEq α] : BEq (Vec3 α) := ⟨fun v w => v.x == w.x && v.y == w.y && v.z == w.z⟩

variable [Scalar α]

instance : Add (Vec3 α) := ⟨zip (· + ·)⟩
instance : Sub (Vec3 α) := ⟨zip (· - ·)⟩
instance : Mul (Vec3 α) := ⟨zip (· * ·)⟩
instance : Zero (Vec3 α) := ⟨splat 0⟩

/-- The vector scaled by a number. -/
def scale (v : Vec3 α) (a : α) : Vec3 α := v.map (· * a)

/-- The scalar product. -/
def dot (v w : Vec3 α) : α := v.x * w.x + v.y * w.y + v.z * w.z

/-- The vector product. -/
def cross (v w : Vec3 α) : Vec3 α :=
  ⟨v.y * w.z - w.y * v.z, v.z * w.x - w.z * v.x, v.x * w.y - w.x * v.y⟩

/-- The length. -/
def length (v : Vec3 α) : α := Scalar.sqrt (v.dot v)

/-- The vector scaled by the inverse of its length. -/
def normalize (v : Vec3 α) : Vec3 α := v.scale (1 / v.length)

/-- The vector scaled to length one, or zero if its length has no usable inverse. -/
def unit (v : Vec3 α) : Vec3 α :=
  let r := 1 / v.length
  if Scalar.isPositive r then v.scale r else 0

/-- The coordinatewise minimum. -/
def least (v w : Vec3 α) : Vec3 α := zip Scalar.least v w

/-- The coordinatewise maximum. -/
def greatest (v w : Vec3 α) : Vec3 α := zip Scalar.greatest v w

end Vec3

/-! ## Rotations -/

/-- A rotation by an angle about an axis: the axis scaled by the sine of half the angle, and the
cosine of half the angle. -/
structure Rotor (α : Type u) where
  /-- The axis scaled by the sine of half the angle. -/
  axis : Vec3 α
  /-- The cosine of half the angle. -/
  cosine : α
  deriving DecidableEq, Repr, Inhabited

namespace Rotor

variable [Scalar α]

/-- The rotation that moves nothing. -/
def identity : Rotor α := ⟨0, 1⟩

/-- The rotation about an axis, given sine and cosine of half its angle. -/
def about (axis : Vec3 α) (sine cosine : α) : Rotor α := ⟨axis.scale sine, cosine⟩

/-- The rotated vector. -/
def rotate (q : Rotor α) (v : Vec3 α) : Vec3 α :=
  v.scale (q.cosine * q.cosine - q.axis.dot q.axis)
    + q.axis.scale (v.dot q.axis * Scalar.two)
    + (q.axis.cross v).scale (q.cosine * Scalar.two)

end Rotor
end ModelPreview
