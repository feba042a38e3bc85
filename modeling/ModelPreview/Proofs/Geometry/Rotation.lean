import Mathlib
import ModelPreview.Geometry.Vector

/-!
# Rotations in exact arithmetic

Over an ordered field the formulas of vectors and rotations are polynomials, and the formula of a
rotation can be studied for any axis part and any scalar part.  Together the two have a norm; vector
products of rotated vectors are rotated vector products times the norm, and scalar products are
multiplied by the square of the norm.  A rotation about a coordinate axis has the norm of its sine
and cosine, which is one if these belong to an angle; such a rotation keeps both products.

An ordered field has no square root in general, so the root is a parameter, and all that is used of
it is that the root of one is one.

Main definitions:

- `Exact`: a field as scalars, with a function in place of the square root.
- `Rotor.norm`: by how much the formula of a rotation stretches, squared.

Main results:

- `Rotor.cross_rotate` and `Rotor.dot_rotate`: products of rotated vectors.
- `Rotor.norm_about`: rotations given by a sine and a cosine.
-/

namespace ModelPreview

/-! ## Exact scalars -/

/-- A field as scalars: operations are exact, and the root is a given function. -/
def Exact (α : Type u) (_root : α → α) : Type u := α

namespace Exact

variable {α : Type u} {root : α → α}

instance [Field α] : Field (Exact α root) := inferInstanceAs (Field α)

instance [LinearOrder α] : LinearOrder (Exact α root) := inferInstanceAs (LinearOrder α)

instance [Field α] [LinearOrder α] [IsStrictOrderedRing α] : IsStrictOrderedRing (Exact α root) :=
  inferInstanceAs (IsStrictOrderedRing α)

instance [Field α] [LinearOrder α] : Scalar (Exact α root) where
  least := min
  greatest := max
  sqrt := root
  isPositive a := decide (0 < a)

end Exact

section

variable {α : Type u} [Field α] [LinearOrder α] {root : α → α}

theorem Scalar.two_exact : (Scalar.two : Exact α root) = 2 := one_add_one_eq_two

/-! ## Vectors -/

namespace Vec3

@[simp] theorem mk_add_mk [Scalar β] (x y z x' y' z' : β) :
    (⟨x, y, z⟩ + ⟨x', y', z'⟩ : Vec3 β) = ⟨x + x', y + y', z + z'⟩ := rfl

@[simp] theorem mk_sub_mk [Scalar β] (x y z x' y' z' : β) :
    (⟨x, y, z⟩ - ⟨x', y', z'⟩ : Vec3 β) = ⟨x - x', y - y', z - z'⟩ := rfl

@[simp] theorem mk_mul_mk [Scalar β] (x y z x' y' z' : β) :
    (⟨x, y, z⟩ * ⟨x', y', z'⟩ : Vec3 β) = ⟨x * x', y * y', z * z'⟩ := rfl

@[simp] theorem scale_mk [Scalar β] (x y z a : β) :
    (⟨x, y, z⟩ : Vec3 β).scale a = ⟨x * a, y * a, z * a⟩ := rfl

@[simp] theorem dot_mk [Scalar β] (x y z x' y' z' : β) :
    (⟨x, y, z⟩ : Vec3 β).dot ⟨x', y', z'⟩ = x * x' + y * y' + z * z' := rfl

@[simp] theorem cross_mk [Scalar β] (x y z x' y' z' : β) :
    (⟨x, y, z⟩ : Vec3 β).cross ⟨x', y', z'⟩ =
      ⟨y * z' - y' * z, z * x' - z' * x, x * y' - x' * y⟩ := rfl

variable (v w u : Vec3 (Exact α root))

theorem add_sub_add (v w u : Vec3 (Exact α root)) : u + v - (u + w) = v - w := by
  obtain ⟨x, y, z⟩ := u
  obtain ⟨x', y', z'⟩ := v
  obtain ⟨x'', y'', z''⟩ := w
  simp

theorem sub_sub_sub (v w u : Vec3 (Exact α root)) : v - u - (w - u) = v - w := by
  obtain ⟨x, y, z⟩ := u
  obtain ⟨x', y', z'⟩ := v
  obtain ⟨x'', y'', z''⟩ := w
  simp

theorem sub_mul_sub (v w u : Vec3 (Exact α root)) : v * u - w * u = (v - w) * u := by
  obtain ⟨x, y, z⟩ := u
  obtain ⟨x', y', z'⟩ := v
  obtain ⟨x'', y'', z''⟩ := w
  simp [sub_mul]

theorem scale_one (v : Vec3 (Exact α root)) : v.scale 1 = v := by
  obtain ⟨x, y, z⟩ := v
  simp

/-- A vector whose scalar product with itself is one is not changed by scaling it to length one. -/
theorem unit_eq_self [IsStrictOrderedRing α] (hroot : root 1 = 1) {v : Vec3 (Exact α root)}
    (hv : v.dot v = 1) : v.unit = v := by
  have hlength : v.length = 1 := by
    rw [length, hv]
    exact hroot
  have hpositive : Scalar.isPositive (1 : Exact α root) = true := decide_eq_true one_pos
  rw [unit, hlength, div_one, if_pos hpositive, scale_one]

end Vec3

/-! ## Rotations -/

namespace Rotor

/-- The square of the factor by which the formula of a rotation scales. -/
def norm [Scalar β] (q : Rotor β) : β := q.axis.dot q.axis + q.cosine * q.cosine

variable (q : Rotor (Exact α root)) (v w : Vec3 (Exact α root))

theorem rotate_sub : q.rotate v - q.rotate w = q.rotate (v - w) := by
  obtain ⟨⟨a, b, c⟩, s⟩ := q
  obtain ⟨x, y, z⟩ := v
  obtain ⟨x', y', z'⟩ := w
  simp only [rotate, Scalar.two_exact, Vec3.scale_mk, Vec3.dot_mk, Vec3.cross_mk, Vec3.mk_add_mk,
    Vec3.mk_sub_mk, Vec3.mk.injEq]
  refine ⟨?_, ?_, ?_⟩ <;> ring

/-- Vector products of rotated vectors are rotated vector products. -/
theorem cross_rotate : (q.rotate v).cross (q.rotate w) = (q.rotate (v.cross w)).scale q.norm := by
  obtain ⟨⟨a, b, c⟩, s⟩ := q
  obtain ⟨x, y, z⟩ := v
  obtain ⟨x', y', z'⟩ := w
  simp only [rotate, norm, Scalar.two_exact, Vec3.scale_mk, Vec3.dot_mk, Vec3.cross_mk,
    Vec3.mk_add_mk, Vec3.mk.injEq]
  refine ⟨?_, ?_, ?_⟩ <;> ring

/-- Scalar products of rotated vectors. -/
theorem dot_rotate : (q.rotate v).dot (q.rotate w) = q.norm * q.norm * v.dot w := by
  obtain ⟨⟨a, b, c⟩, s⟩ := q
  obtain ⟨x, y, z⟩ := v
  obtain ⟨x', y', z'⟩ := w
  simp only [rotate, norm, Scalar.two_exact, Vec3.scale_mk, Vec3.dot_mk, Vec3.cross_mk,
    Vec3.mk_add_mk]
  ring

theorem norm_identity : (identity : Rotor (Exact α root)).norm = 1 := by
  change (0 * 0 + 0 * 0 + 0 * 0 + 1 * 1 : Exact α root) = 1
  ring

/-- A rotation about an axis of length one has the norm of its sine and cosine. -/
theorem norm_about {axis : Vec3 (Exact α root)} (haxis : axis.dot axis = 1)
    (sine cosine : Exact α root) : (about axis sine cosine).norm = sine * sine + cosine * cosine := by
  obtain ⟨x, y, z⟩ := axis
  rw [Vec3.dot_mk] at haxis
  simp only [about, norm, Vec3.scale_mk, Vec3.dot_mk]
  linear_combination sine * sine * haxis

end Rotor

end

end ModelPreview
