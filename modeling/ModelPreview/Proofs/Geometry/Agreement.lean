import Mathlib
import ModelPreview.Mesh.Transform
import ModelPreview.Model.Validation
import ModelPreview.Proofs.Geometry.Bounds
import ModelPreview.Proofs.Geometry.Rotation
import ModelPreview.Proofs.Number.Agreement

/-!
# Points that are equal up to the sign of zero

Moving points that agree leads to points that agree, and so does selecting a corner of the box between
two points, in whichever order these are given.  The transform of an element that is not turned still
computes every product and sum of the formula, but in each coordinate all that is added to the old
one is zero.  Infinite coordinates are left out, because a product with zero is no number then.

Main definitions:

- `Vec3.Agree`: two points agree.

Main results:

- `Transform.agree_point`: the images of points that agree.
- `Transform.agree_identity_point`: the transform of an element that is not turned.
- `Bounds.beq_enclosing`: the boxes around points that agree.
-/

namespace ModelPreview

open Single

/-! ## Vectors -/

/-- Two vectors agree in every coordinate. -/
structure Vec3.Agree (v w : Vec3 Float32) : Prop where
  x : Single.Agree v.x w.x
  y : Single.Agree v.y w.y
  z : Single.Agree v.z w.z

namespace Vec3

theorem isFinite_eq_true_iff {v : Vec3 Float32} :
    v.isFinite = true ↔ v.x.isFinite = true ∧ v.y.isFinite = true ∧ v.z.isFinite = true := by
  rw [isFinite, Bool.and_eq_true, Bool.and_eq_true, and_assoc]

namespace Agree

variable {v v' w w' u : Vec3 Float32} {a a' : Float32}

theorem refl (v : Vec3 Float32) : v.Agree v := ⟨.refl _, .refl _, .refl _⟩

theorem trans (h : v.Agree w) (h' : w.Agree u) : v.Agree u :=
  ⟨h.x.trans h'.x, h.y.trans h'.y, h.z.trans h'.z⟩

theorem add (hv : v.Agree v') (hw : w.Agree w') : (v + w).Agree (v' + w') :=
  ⟨hv.x.add hw.x, hv.y.add hw.y, hv.z.add hw.z⟩

theorem sub (hv : v.Agree v') (hw : w.Agree w') : (v - w).Agree (v' - w') :=
  ⟨hv.x.sub hw.x, hv.y.sub hw.y, hv.z.sub hw.z⟩

theorem mul (hv : v.Agree v') (hw : w.Agree w') : (v * w).Agree (v' * w') :=
  ⟨hv.x.mul hw.x, hv.y.mul hw.y, hv.z.mul hw.z⟩

theorem scale (hv : v.Agree v') (ha : Single.Agree a a') : (v.scale a).Agree (v'.scale a') :=
  ⟨hv.x.mul ha, hv.y.mul ha, hv.z.mul ha⟩

theorem dot (hv : v.Agree v') (hw : w.Agree w') : Single.Agree (v.dot w) (v'.dot w') :=
  ((hv.x.mul hw.x).add (hv.y.mul hw.y)).add (hv.z.mul hw.z)

theorem cross (hv : v.Agree v') (hw : w.Agree w') : (v.cross w).Agree (v'.cross w') :=
  ⟨(hv.y.mul hw.z).sub (hw.y.mul hv.z), (hv.z.mul hw.x).sub (hw.z.mul hv.x),
    (hv.x.mul hw.y).sub (hw.x.mul hv.y)⟩

theorem beq (h : v.Agree w) (hw : w.isFinite = true) : (v == w) = true := by
  obtain ⟨hx, hy, hz⟩ := isFinite_eq_true_iff.1 hw
  change (v.x == w.x && v.y == w.y && v.z == w.z) = true
  rw [Bool.and_eq_true, Bool.and_eq_true]
  exact ⟨⟨h.x.beq (h.x.isNaN_eq.trans (isNaN_of_isFinite hx)),
    h.y.beq (h.y.isNaN_eq.trans (isNaN_of_isFinite hy))⟩,
    h.z.beq (h.z.isNaN_eq.trans (isNaN_of_isFinite hz))⟩

end Agree

variable (v : Vec3 Float32)

theorem agree_add_zero : (v + 0).Agree v :=
  ⟨Single.agree_add_zero _, Single.agree_add_zero _, Single.agree_add_zero _⟩

theorem agree_zero_add : (0 + v).Agree v :=
  ⟨Single.agree_zero_add _, Single.agree_zero_add _, Single.agree_zero_add _⟩

theorem agree_sub_zero : (v - 0).Agree v :=
  ⟨Single.agree_sub_zero _, Single.agree_sub_zero _, Single.agree_sub_zero _⟩

theorem agree_mul_one : (v * splat 1).Agree v :=
  ⟨Single.agree_mul_one _, Single.agree_mul_one _, Single.agree_mul_one _⟩

theorem agree_scale_one : (v.scale 1).Agree v :=
  ⟨Single.agree_mul_one _, Single.agree_mul_one _, Single.agree_mul_one _⟩

variable {v} (hv : v.isFinite = true)

include hv

theorem agree_dot_zero : Single.Agree (v.dot 0) 0 := by
  obtain ⟨hx, hy, hz⟩ := isFinite_eq_true_iff.1 hv
  have hsum := ((agree_mul_zero hx).add (agree_mul_zero hy)).add (agree_mul_zero hz)
  have hzero : (0 + 0 + 0 : Float32) = 0 := by decide +kernel
  rw [hzero] at hsum
  exact hsum

theorem agree_zero_cross : (cross 0 v).Agree 0 := by
  obtain ⟨hx, hy, hz⟩ := isFinite_eq_true_iff.1 hv
  have hzero : (0 - 0 : Float32) = 0 := by decide +kernel
  have hdiff {a b : Float32} (ha : a.isFinite = true) (hb : b.isFinite = true) :
      Single.Agree (0 * a - b * 0) 0 := by
    have hterms := (agree_zero_mul ha).sub (agree_mul_zero hb)
    rwa [hzero] at hterms
  exact ⟨hdiff hz hy, hdiff hx hz, hdiff hy hx⟩

end Vec3

/-! ## Transforms -/

theorem Rotor.agree_rotate (q : Rotor Float32) {v w : Vec3 Float32} (h : v.Agree w) :
    (q.rotate v).Agree (q.rotate w) :=
  ((h.scale (.refl _)).add ((Vec3.Agree.refl _).scale ((h.dot (.refl _)).mul (.refl _)))).add
    (((Vec3.Agree.refl _).cross h).scale (.refl _))

/-- The rotation that moves nothing adds two vectors of zeros. -/
theorem Rotor.agree_identity_rotate {v : Vec3 Float32} (hv : v.isFinite = true) :
    (identity.rotate v).Agree v := by
  have hcosine : identity.cosine * identity.cosine - identity.axis.dot identity.axis = (1 : Float32) := by
    decide +kernel
  have haxis : (identity.axis.scale (v.dot identity.axis * Scalar.two)).Agree 0 := by
    have hscaled := (Vec3.Agree.refl (0 : Vec3 Float32)).scale
      ((Vec3.agree_dot_zero hv).mul (.refl Scalar.two))
    have hzero : (0 : Vec3 Float32).scale (0 * Scalar.two) = 0 := by decide +kernel
    rw [hzero] at hscaled
    exact hscaled
  have hcross : ((identity.axis.cross v).scale (identity.cosine * Scalar.two)).Agree 0 := by
    have hscaled := (Vec3.agree_zero_cross hv).scale (.refl (identity.cosine * Scalar.two))
    have hzero : (0 : Vec3 Float32).scale (identity.cosine * Scalar.two) = 0 := by decide +kernel
    rw [hzero] at hscaled
    exact hscaled
  rw [rotate, hcosine]
  have hsum := ((Vec3.agree_scale_one v).add haxis).add hcross
  exact hsum.trans ((Vec3.agree_add_zero _).trans (Vec3.agree_add_zero v))

namespace Transform

theorem agree_point (t : Transform Float32) {p q : Vec3 Float32} (h : p.Agree q) :
    (t.point p).Agree (t.point q) :=
  (Vec3.Agree.refl _).add (t.rotor.agree_rotate ((h.sub (.refl _)).mul (.refl _)))

theorem agree_identity_point {p : Vec3 Float32} (hp : p.isFinite = true) :
    (identity.point p).Agree p := by
  have hstretched : ((p - 0) * .splat 1).Agree p := (Vec3.agree_mul_one _).trans p.agree_sub_zero
  have hrotated := (Rotor.identity.agree_rotate hstretched).trans (Rotor.agree_identity_rotate hp)
  exact (Vec3.agree_zero_add _).trans hrotated

/-- The normals of the sides have length one as they are. -/
theorem beq_identity_normal (d : Direction) :
    (identity.normal d.normal == (d.normal : Vec3 Float32)) = true := by
  cases d <;> decide +kernel

end Transform

/-! ## Boxes -/

section Boxes

variable {v v' w w' : Vec3 Float32}

theorem agree_cornerOf (hv : v.Agree v') (hw : w.Agree w') (i : Fin 8) :
    (cornerOf v w i).Agree (cornerOf v' w' i) := by
  refine ⟨?_, ?_, ?_⟩ <;> unfold cornerOf <;> dsimp only <;> split
  · exact hw.x
  · exact hv.x
  · exact hw.y
  · exact hv.y
  · exact hw.z
  · exact hv.z

/-- The corners of the box between two points with finite coordinates are finite. -/
theorem isFinite_cornerOf (hv : v.isFinite = true) (hw : w.isFinite = true) (i : Fin 8) :
    (cornerOf (v.least w) (v.greatest w) i).isFinite = true := by
  rw [Vec3.isFinite_eq_true_iff] at *
  refine ⟨?_, ?_, ?_⟩ <;> unfold cornerOf <;> dsimp only <;> split
  · exact isFinite_greatest hv.1 hw.1
  · exact isFinite_least hv.1 hw.1
  · exact isFinite_greatest hv.2.1 hw.2.1
  · exact isFinite_least hv.2.1 hw.2.1
  · exact isFinite_greatest hv.2.2 hw.2.2
  · exact isFinite_least hv.2.2 hw.2.2

end Boxes

theorem Interval.beq_insert {i j : Interval} {x y : Float32} (h : (i == j) = true)
    (hx : Single.Agree x y) : (i.insert x == j.insert y) = true := by
  rw [beq_iff] at *
  exact ⟨selects_least.beq h.1 hx, selects_greatest.beq h.2 hx⟩

namespace Bounds

theorem beq_insert {b c : Bounds} {p q : Vec3 Float32} (h : (b == c) = true) (hp : p.Agree q) :
    (b.insert p == c.insert q) = true := by
  rw [beq_iff] at *
  exact ⟨Interval.beq_insert h.1 hp.x, Interval.beq_insert h.2.1 hp.y,
    Interval.beq_insert h.2.2 hp.z⟩

/-- The boxes around points that agree have the same ends. -/
theorem beq_enclosing {ps qs : List (Vec3 Float32)} (h : List.Forall₂ Vec3.Agree ps qs) :
    (enclosing ps == enclosing qs) = true := by
  have hfold : ∀ {b c : Bounds}, (b == c) = true → (ps.foldl insert b == qs.foldl insert c) = true := by
    induction h with
    | nil => exact fun hb => hb
    | cons hp _ ih => exact fun hb => ih (beq_insert hb hp)
  have hempty : (empty == empty) = true := by decide +kernel
  exact hfold hempty

end Bounds
end ModelPreview
