import Mathlib
import ModelPreview.Geometry.Vector
import ModelPreview.Proofs.Number.Arithmetic

/-!
# The order of 32-bit numbers

All 32-bit values but NaN are ordered.  Infinities lie outside, both zeros are at the same place, and
on either side of them values are ordered by their exponents and then by their significands.  So every
value has a rank in a linear order, and comparing numbers is comparing their ranks.  The smaller and
the larger one of two numbers are among the two.

Main definitions:

- `Single.rank`: the place of a 32-bit value in the order.

Main results:

- `Single.le_iff_rank`, `Single.lt_iff_rank` and `Single.beq_iff_rank`: comparisons of numbers.
- `Single.rank_least` and `Single.rank_greatest`: the smaller and the larger one of two numbers.
-/

namespace ModelPreview

open Float.Model (UnpackedFloat)

/-! ## Ranks -/

/-- The place of an unpacked value in the order; that of a NaN has no meaning. -/
def unpackedRank : UnpackedFloat → ℤ ×ₗ ℤ ×ₗ ℤ
  | .infinity .negative => toLex (-2, toLex (0, 0))
  | .finite .negative m e _ => toLex (-1, toLex (-e, -m))
  | .zero _ => toLex (0, toLex (0, 0))
  | .notANumber => toLex (0, toLex (0, 0))
  | .finite .positive m e _ => toLex (1, toLex (e, m))
  | .infinity .positive => toLex (2, toLex (0, 0))

theorem compare_natCast (m n : ℕ) : compare (m : ℤ) n = compare m n := by
  rw [← cmp_eq_compare, ← cmp_eq_compare]
  exact Nat.strictMono_cast.cmp_map_eq m n

theorem compare_neg (i j : ℤ) : compare (-i) (-j) = compare j i := by
  have hanti : StrictAnti fun i : ℤ => -i := fun _ _ h => neg_lt_neg h
  rw [← cmp_eq_compare, ← cmp_eq_compare]
  exact hanti.cmp_map_eq i j

/-- On one side of zero, exponents are compared before significands. -/
theorem compare_toLex (k e f m n : ℤ) :
    compare (toLex (k, toLex (e, m)) : ℤ ×ₗ ℤ ×ₗ ℤ) (toLex (k, toLex (f, n))) =
      (compare e f).then (compare m n) := by
  change (compare k k).then ((compare e f).then (compare m n)) = _
  rw [compare_eq_iff_eq.2 rfl]
  rfl

/-- Unless one of them is a NaN, unpacked values are compared by their ranks. -/
theorem compare_eq_rank {u v : UnpackedFloat} (hu : u.isNaN = false) (hv : v.isNaN = false) :
    u.compare v = some (compare (unpackedRank u) (unpackedRank v)) := by
  cases u with
  | notANumber => cases hu
  | infinity s =>
    cases v with
    | notANumber => cases hv
    | infinity t => cases s <;> cases t <;> rfl
    | zero t => cases s <;> rfl
    | finite t n f hn => cases s <;> cases t <;> rfl
  | zero s =>
    cases v with
    | notANumber => cases hv
    | infinity t => cases t <;> rfl
    | zero t => rfl
    | finite t n f hn => cases t <;> rfl
  | finite s m e hm =>
    cases v with
    | notANumber => cases hv
    | infinity t => cases s <;> cases t <;> rfl
    | zero t => cases s <;> rfl
    | finite t n f hn =>
      cases s <;> cases t
      case negative.positive | positive.negative => rfl
      case positive.positive =>
        rw [unpackedRank, unpackedRank, compare_toLex, compare_natCast]
        rfl
      case negative.negative =>
        rw [unpackedRank, unpackedRank, compare_toLex, compare_neg, compare_neg, compare_natCast,
          ← Int.compare_swap e f, ← Nat.compare_swap m n, ← Ordering.swap_then]
        rfl

namespace Single

/-- The place of a 32-bit value in the order. -/
def rank (x : Float32) : ℤ ×ₗ ℤ ×ₗ ℤ := unpackedRank x.toModel.unpack

variable {x y z : Float32}

theorem compare_unpack (hx : x.isNaN = false) (hy : y.isNaN = false) :
    x.toModel.unpack.compare y.toModel.unpack = some (compare (rank x) (rank y)) :=
  compare_eq_rank hx hy

theorem lt_iff_rank (hx : x.isNaN = false) (hy : y.isNaN = false) : x < y ↔ rank x < rank y := by
  rw [lt_iff_compare, compare_unpack hx hy, beq_iff_eq, Option.some.injEq]
  exact compare_lt_iff_lt

theorem le_iff_rank (hx : x.isNaN = false) (hy : y.isNaN = false) : x ≤ y ↔ rank x ≤ rank y := by
  rw [le_iff_isLE, compare_unpack hx hy, Option.any_some, ← not_lt, ← compare_gt_iff_gt]
  cases compare (rank x) (rank y) <;> decide

theorem beq_iff_rank (hx : x.isNaN = false) (hy : y.isNaN = false) :
    (x == y) = true ↔ rank x = rank y := by
  change (x.toModel.unpack.compare y.toModel.unpack == some .eq) = true ↔ _
  rw [compare_unpack hx hy, beq_iff_eq, Option.some.injEq]
  exact compare_eq_iff_eq

theorem le_refl (hx : x.isNaN = false) : x ≤ x := (le_iff_rank hx hx).2 le_rfl

theorem le_trans (hx : x.isNaN = false) (hy : y.isNaN = false) (hz : z.isNaN = false) (hxy : x ≤ y)
    (hyz : y ≤ z) : x ≤ z :=
  (le_iff_rank hx hz).2 (((le_iff_rank hx hy).1 hxy).trans ((le_iff_rank hy hz).1 hyz))

/-- Numbers that are not greater than each other are equal as numbers. -/
theorem beq_of_le_of_le (hx : x.isNaN = false) (hy : y.isNaN = false) (hxy : x ≤ y) (hyx : y ≤ x) :
    (x == y) = true :=
  (beq_iff_rank hx hy).2 (((le_iff_rank hx hy).1 hxy).antisymm ((le_iff_rank hy hx).1 hyx))

theorem not_lt_of_le (hx : x.isNaN = false) (hy : y.isNaN = false) (hxy : x ≤ y) : ¬ y < x := by
  rw [lt_iff_rank hy hx]
  exact ((le_iff_rank hx hy).1 hxy).not_gt

/-! ## The smaller and the larger one -/

theorem least_eq_or (x y : Float32) : least x y = x ∨ least x y = y := by
  unfold least
  grind

theorem greatest_eq_or (x y : Float32) : greatest x y = x ∨ greatest x y = y := by
  unfold greatest
  grind

theorem rank_least (hx : x.isNaN = false) (hy : y.isNaN = false) :
    rank (least x y) = min (rank x) (rank y) := by
  unfold least
  simp only [hx, hy, Bool.false_eq_true, if_false]
  split
  · rename_i hlt
    exact (min_eq_left ((lt_iff_rank hx hy).1 hlt).le).symm
  · rename_i hge
    exact (min_eq_right (not_lt.1 fun hlt => hge ((lt_iff_rank hx hy).2 hlt))).symm

theorem rank_greatest (hx : x.isNaN = false) (hy : y.isNaN = false) :
    rank (greatest x y) = max (rank x) (rank y) := by
  unfold greatest
  simp only [hx, hy, Bool.false_eq_true, if_false]
  split
  · rename_i hlt
    exact (max_eq_left ((lt_iff_rank hy hx).1 hlt).le).symm
  · rename_i hge
    exact (max_eq_right (not_lt.1 fun hlt => hge ((lt_iff_rank hy hx).2 hlt))).symm

theorem isNaN_least (hx : x.isNaN = false) (hy : y.isNaN = false) : (least x y).isNaN = false := by
  rcases least_eq_or x y with h | h <;> rwa [h]

theorem isNaN_greatest (hx : x.isNaN = false) (hy : y.isNaN = false) :
    (greatest x y).isNaN = false := by
  rcases greatest_eq_or x y with h | h <;> rwa [h]

theorem isFinite_least (hx : x.isFinite = true) (hy : y.isFinite = true) :
    (least x y).isFinite = true := by
  rcases least_eq_or x y with h | h <;> rwa [h]

theorem isFinite_greatest (hx : x.isFinite = true) (hy : y.isFinite = true) :
    (greatest x y).isFinite = true := by
  rcases greatest_eq_or x y with h | h <;> rwa [h]

theorem least_le_left (hx : x.isNaN = false) (hy : y.isNaN = false) : least x y ≤ x := by
  rw [le_iff_rank (isNaN_least hx hy) hx, rank_least hx hy]
  exact min_le_left _ _

theorem least_le_right (hx : x.isNaN = false) (hy : y.isNaN = false) : least x y ≤ y := by
  rw [le_iff_rank (isNaN_least hx hy) hy, rank_least hx hy]
  exact min_le_right _ _

theorem le_greatest_left (hx : x.isNaN = false) (hy : y.isNaN = false) : x ≤ greatest x y := by
  rw [le_iff_rank hx (isNaN_greatest hx hy), rank_greatest hx hy]
  exact le_max_left _ _

theorem le_greatest_right (hx : x.isNaN = false) (hy : y.isNaN = false) : y ≤ greatest x y := by
  rw [le_iff_rank hy (isNaN_greatest hx hy), rank_greatest hx hy]
  exact le_max_right _ _

/-! ## Infinities -/

theorem not_infinity_lt (x : Float32) : ¬ infinity < x := by
  have hinfinity : infinity.toModel.unpack = .infinity .positive := rfl
  rw [lt_iff_compare, hinfinity]
  cases x.toModel.unpack with
  | infinity s => cases s <;> exact nofun
  | notANumber => exact nofun
  | zero s => exact nofun
  | finite s m e hm => exact nofun

theorem not_lt_neg_infinity (x : Float32) : ¬ x < -infinity := by
  have hinfinity : (-infinity).toModel.unpack = .infinity .negative := rfl
  rw [lt_iff_compare, hinfinity]
  cases x.toModel.unpack with
  | infinity s => cases s <;> exact nofun
  | notANumber => exact nofun
  | zero s => exact nofun
  | finite s m e hm => cases s <;> exact nofun

theorem least_infinity (hx : x.isNaN = false) : least infinity x = x := by
  have hnumber : infinity.isNaN = false := rfl
  simp only [least, hx, hnumber, not_infinity_lt, Bool.false_eq_true, if_false]

theorem greatest_neg_infinity (hx : x.isNaN = false) : greatest (-infinity) x = x := by
  have hnumber : (-infinity).isNaN = false := rfl
  simp only [greatest, hx, hnumber, not_lt_neg_infinity, Bool.false_eq_true, if_false]

end Single
end ModelPreview
