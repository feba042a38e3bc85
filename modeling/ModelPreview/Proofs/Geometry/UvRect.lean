import Mathlib
import ModelPreview.Geometry.UvRect
import ModelPreview.Proofs.Number.Arithmetic

/-!
# Points carried into a rectangle

Carrying a point of the unit square into a rectangle takes a difference, a product and a sum for each
coordinate, and each of them is rounded.  The rounded product is never greater than the rounded
extent of the rectangle.  The rounded extent is off by no more than half a last place of the far side,
which is less than the distance from the far side to the next value.  So a carried coordinate is never
smaller than the near side, and it is at most the next value behind the far side.

Main definitions:

- `Encloses`: a coordinate lies between two sides, or just behind the far one.
- `UvRect.KeepsIn`: a rectangle encloses what is carried into it.

Main results:

- `HasValue.encloses`: coordinates between zero and one are carried between the sides.
- `UvRect.keepsIn_map`: points of the unit square are carried into the rectangle.
-/

namespace ModelPreview

open Binary (single)

variable {x y : Float32} {p q r : ℚ}

/-! ## Nearest values beside values -/

theorem HasValue.nearest_le (hx : HasValue x p) (hq : 0 ≤ q) (h : q ≤ p) : single.nearest q ≤ p := by
  obtain ⟨-, a, ha, rfl, -⟩ := hx
  exact Binary.Format.nearest_le single_precision_pos ha.canonical hq h

theorem HasValue.le_nearest (hx : HasValue x p) (h : p ≤ q) : p ≤ single.nearest q := by
  obtain ⟨-, a, ha, rfl, -⟩ := hx
  exact Binary.Format.le_nearest single_precision_pos ha.canonical h

/-- Numbers below a value are rounded by less than the distance from the value to a greater one. -/
theorem HasValue.nearest_sub_le (hx : HasValue x p) (hy : HasValue y q) (h : p < q) (hr : 0 ≤ r)
    (hle : r ≤ p) : single.nearest r - r ≤ q - p := by
  obtain ⟨-, a, ha, rfl, -⟩ := hx
  obtain ⟨-, b, hb, rfl, -⟩ := hy
  have herror := Binary.Format.abs_nearest_sub_le single_precision_pos ha.canonical hr hle
  have hgap := ha.canonical.add_le_of_lt single_precision_pos hb.canonical h
  have hunit := two_zpow_pos a.exponent
  linarith [(abs_le.1 herror).2]

/-! ## Coordinates -/

/-- A coordinate lies between two sides, or it is the next value behind the far one. -/
structure Encloses (near far c : Float32) : Prop where
  near_le : near ≤ c
  le_of_far_lt : ∀ x, far < x → c ≤ x

/-- Coordinates between zero and one are carried between the sides. -/
theorem HasValue.encloses {near far c : Float32} (hnear : HasValue near p) (hfar : HasValue far q)
    (hle : p ≤ q) (hone : q ≤ 1) (hlow : 0 ≤ c) (hhigh : c ≤ 1) :
    Encloses near far (near + c * (far - near)) := by
  obtain ⟨t, hc, ht⟩ := hasValue_one.exists_of_le hlow hhigh
  have hp := hnear.nonneg
  have hsmall (r : ℚ) (hr : r ≤ 3) : r < 2 ^ (127 : ℤ) := hr.trans_lt (by norm_num)
  -- The extent of the rectangle, and the part of it that is added, both rounded.
  have hextent := hfar.sub hnear hle (hsmall q (by linarith))
  set extent := single.nearest (q - p) with hextent_def
  have hextent_le : extent ≤ 1 := hasValue_one.nearest_le (sub_nonneg.2 hle) (by linarith)
  have hproduct : t * extent ≤ extent := mul_le_of_le_one_left hextent.nonneg ht
  have hproduct_nonneg : 0 ≤ t * extent := mul_nonneg hc.nonneg hextent.nonneg
  have hpart := hc.mul hextent (hsmall _ (by linarith))
  set part := single.nearest (t * extent) with hpart_def
  have hpart_le : part ≤ extent := hextent.nearest_le hproduct_nonneg hproduct
  have hsum := hnear.add hpart (hsmall _ (by linarith))
  refine ⟨(hnear.le_iff hsum).2 (hnear.le_nearest (by linarith [hpart.nonneg])), ?_⟩
  intro x hx
  rcases hfar.cases_of_lt hx with ⟨r, hr, hlt⟩ | hgreatest
  · rw [hsum.le_iff hr]
    have hround := hfar.nearest_sub_le hr hlt (sub_nonneg.2 hle) (by linarith)
    exact hr.nearest_le (by linarith [hpart.nonneg]) (by linarith)
  · exact hgreatest _ _ hsum

/-! ## Points -/

namespace UvRect

/-- The rectangle encloses a carried point in each direction in which it came from the unit square. -/
structure KeepsIn (r : UvRect) (source carried : Uv) : Prop where
  across : 0 ≤ source.u → source.u ≤ 1 → Encloses r.u0 r.u1 carried.u
  down : 0 ≤ source.v → source.v ≤ 1 → Encloses r.v0 r.v1 carried.v

/-- The sides of the rectangle are values of the unit interval, in order. -/
structure Upright (r : UvRect) : Prop where
  across : ∃ p q, HasValue r.u0 p ∧ HasValue r.u1 q ∧ p ≤ q ∧ q ≤ 1
  down : ∃ p q, HasValue r.v0 p ∧ HasValue r.v1 q ∧ p ≤ q ∧ q ≤ 1

/-- Points of the unit square are carried into the rectangle. -/
theorem keepsIn_map {r : UvRect} (h : r.Upright) (source : Uv) : r.KeepsIn source (r.map source) := by
  obtain ⟨⟨a, b, ha, hb, hab, hb1⟩, c, d, hc, hd, hcd, hd1⟩ := h
  exact ⟨fun hlow hhigh => ha.encloses hb hab hb1 hlow hhigh,
    fun hlow hhigh => hc.encloses hd hcd hd1 hlow hhigh⟩

end UvRect
end ModelPreview
