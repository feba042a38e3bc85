import Mathlib
import ModelPreview.Proofs.Number.Order

/-!
# Equal up to the sign of zero

Two 32-bit values agree if they are equal as numbers or both no numbers.  They are then the same
value, or both are zeros.  Sums, differences and products of values that agree agree, and up to
agreement zero and one behave as they do in exact arithmetic, except that a product with zero has to
have a finite factor.  The smaller one of two values does not depend on their order up to agreement,
and neither does the larger one.

Main definitions:

- `Alike`: two unpacked values are the same, or both are zeros.
- `Single.Agree`: two 32-bit values agree.
- `Single.Selects`: an operation returns one of two values by their ranks.

Main results:

- `Single.Agree.add`, `Single.Agree.sub` and `Single.Agree.mul`: operations respect agreement.
- `Single.agree_add_zero`, `Single.agree_sub_zero`, `Single.agree_mul_one` and
  `Single.agree_mul_zero`: what zero and one do.
- `Single.Selects.agree` and `Single.Selects.agree_comm`: selecting respects agreement, and the order
  of the two values plays no part.
-/

namespace ModelPreview

open Float.Model (UnpackedFloat)
open Float.Model.Format (binary32)
open Float.Model.UnpackedFloat
open Binary (Magnitude single)

/-! ## Unpacked values -/

/-- Subtracting is adding the negative. -/
theorem unpacked_sub_eq_add_neg (u v : UnpackedFloat) :
    UnpackedFloat.sub binary32 u v = UnpackedFloat.add binary32 u v.neg := by
  cases u with
  | notANumber => rfl
  | infinity s => cases v <;> rfl
  | zero s => cases v <;> rfl
  | finite s m e hm =>
    cases v with
    | notANumber => rfl
    | infinity t => rfl
    | zero t => rfl
    | finite t n f hn =>
      cases t with
      | positive => rfl
      | negative =>
        change UnpackedFloat.normalize binary32 (_ - -_) _ .positive = _
        rw [Int.sub_neg]
        rfl

theorem eq_notANumber {u : UnpackedFloat} (h : u.isNaN = true) : u = .notANumber := by
  cases u <;> first | rfl | cases h

/-- Two unpacked values are the same, or both are zeros. -/
inductive Alike : UnpackedFloat → UnpackedFloat → Prop where
  | same (u : UnpackedFloat) : Alike u u
  | zeros (s t : Sign) : Alike (.zero s) (.zero t)

namespace Alike

variable {u u' v v' w : UnpackedFloat}

theorem trans (h : Alike u v) (h' : Alike v w) : Alike u w := by
  cases h with
  | same u => exact h'
  | zeros s t =>
    cases h' with
    | same => exact .zeros s t
    | zeros _ r => exact .zeros s r

theorem isNaN_eq (h : Alike u v) : u.isNaN = v.isNaN := by cases h <;> rfl

/-- Values of the same rank are alike. -/
theorem of_rank (hu : u.isNaN = false) (hv : v.isNaN = false) (h : unpackedRank u = unpackedRank v) :
    Alike u v := by
  cases u with
  | notANumber => cases hu
  | infinity s =>
    cases v with
    | notANumber => cases hv
    | infinity t =>
      obtain rfl : s = t := by cases s <;> cases t <;> first | rfl | cases h
      exact .same _
    | zero t => cases s <;> cases h
    | finite t n f hn => cases s <;> cases t <;> cases h
  | zero s =>
    cases v with
    | notANumber => cases hv
    | infinity t => cases t <;> cases h
    | zero t => exact .zeros s t
    | finite t n f hn => cases t <;> cases h
  | finite s m e hm =>
    cases v with
    | notANumber => cases hv
    | infinity t => cases s <;> cases t <;> cases h
    | zero t => cases s <;> cases h
    | finite t n f hn =>
      obtain ⟨rfl, rfl, rfl⟩ : s = t ∧ e = f ∧ m = n := by
        cases s <;> cases t
        case negative.positive | positive.negative => cases h
        case negative.negative => simpa [unpackedRank] using h
        case positive.positive => simpa [unpackedRank] using h
      exact .same _

/-- Values are alike if they are compared as equal, or if both are NaN. -/
theorem iff_compare :
    Alike u v ↔ (u.compare v == some .eq) = true ∨ u.isNaN = true ∧ v.isNaN = true := by
  constructor
  · rintro (_ | _)
    · cases hu : u.isNaN with
      | true => exact .inr ⟨rfl, rfl⟩
      | false =>
        rw [compare_eq_rank hu hu, compare_eq_iff_eq.2 rfl]
        exact .inl rfl
    · exact .inl rfl
  · rintro (h | ⟨hu, hv⟩)
    · cases hu : u.isNaN with
      | true =>
        rw [eq_notANumber hu] at h
        cases h
      | false =>
        cases hv : v.isNaN with
        | true =>
          rw [eq_notANumber hv] at h
          cases u <;> cases h
        | false =>
          rw [compare_eq_rank hu hv, beq_iff_eq, Option.some.injEq] at h
          exact of_rank hu hv (compare_eq_iff_eq.1 h)
    · rw [eq_notANumber hu, eq_notANumber hv]
      exact .same _

/-- An operation respects being alike if it does not ask for the sign of a zero on either side. -/
theorem congr₂ {f : UnpackedFloat → UnpackedFloat → UnpackedFloat}
    (hleft : ∀ s t v, Alike (f (.zero s) v) (f (.zero t) v))
    (hright : ∀ s t u, Alike (f u (.zero s)) (f u (.zero t))) (hu : Alike u u') (hv : Alike v v') :
    Alike (f u v) (f u' v') := by
  have hfirst : Alike (f u v) (f u' v) := by
    cases hu with
    | same => exact .same _
    | zeros s t => exact hleft s t v
  have hsecond : Alike (f u' v) (f u' v') := by
    cases hv with
    | same => exact .same _
    | zeros s t => exact hright s t u'
  exact hfirst.trans hsecond

theorem add (hu : Alike u u') (hv : Alike v v') :
    Alike (UnpackedFloat.add binary32 u v) (UnpackedFloat.add binary32 u' v') := by
  refine congr₂ ?_ ?_ hu hv
  · intro s t v
    cases v with
    | notANumber => exact .same _
    | infinity r => exact .same _
    | zero r => cases s <;> cases t <;> cases r <;> exact .zeros _ _
    | finite r m e hm => exact .same _
  · intro s t u
    cases u with
    | notANumber => exact .same _
    | infinity r => exact .same _
    | zero r => cases s <;> cases t <;> cases r <;> exact .zeros _ _
    | finite r m e hm => exact .same _

theorem neg (h : Alike u u') : Alike u.neg u'.neg := by
  cases h with
  | same => exact .same _
  | zeros s t => exact .zeros _ _

theorem sub (hu : Alike u u') (hv : Alike v v') :
    Alike (UnpackedFloat.sub binary32 u v) (UnpackedFloat.sub binary32 u' v') := by
  rw [unpacked_sub_eq_add_neg, unpacked_sub_eq_add_neg]
  exact hu.add hv.neg

theorem mul (hu : Alike u u') (hv : Alike v v') :
    Alike (UnpackedFloat.mul binary32 u v) (UnpackedFloat.mul binary32 u' v') := by
  refine congr₂ ?_ ?_ hu hv
  · intro s t v
    cases v with
    | notANumber => exact .same _
    | infinity r => exact .same _
    | zero r => exact .zeros _ _
    | finite r m e hm => exact .zeros _ _
  · intro s t u
    cases u with
    | notANumber => exact .same _
    | infinity r => exact .same _
    | zero r => exact .zeros _ _
    | finite r m e hm => exact .zeros _ _

theorem add_zero (u : UnpackedFloat) (s : Sign) : Alike (UnpackedFloat.add binary32 u (.zero s)) u := by
  cases u with
  | notANumber => exact .same _
  | infinity t => exact .same _
  | zero t => cases s <;> cases t <;> exact .zeros _ _
  | finite t m e hm => exact .same _

theorem zero_add (u : UnpackedFloat) (s : Sign) : Alike (UnpackedFloat.add binary32 (.zero s) u) u := by
  cases u with
  | notANumber => exact .same _
  | infinity t => exact .same _
  | zero t => cases s <;> cases t <;> exact .zeros _ _
  | finite t m e hm => exact .same _

theorem mul_zero (hu : u.isFinite = true) (s : Sign) :
    Alike (UnpackedFloat.mul binary32 u (.zero s)) (.zero s) := by
  cases u with
  | notANumber => cases hu
  | infinity t => cases hu
  | zero t => exact .zeros _ _
  | finite t m e hm => exact .zeros _ _

theorem zero_mul (hu : u.isFinite = true) (s : Sign) :
    Alike (UnpackedFloat.mul binary32 (.zero s) u) (.zero s) := by
  cases u with
  | notANumber => cases hu
  | infinity t => cases hu
  | zero t => exact .zeros _ _
  | finite t m e hm => exact .zeros _ _

end Alike

/-! ## Storing -/

/-- What is stored is alike if it is alike before. -/
theorem Alike.stored {u v : UnpackedFloat} (h : Alike u v) :
    Alike (unpack binary32 (pack binary32 u)) (unpack binary32 (pack binary32 v)) := by
  cases h with
  | same => exact .same _
  | zeros s t =>
    rw [unpack_pack_zero, unpack_pack_zero]
    exact .zeros s t

theorem Single.unpack_cases (x : Float32) :
    (∃ s, x.toModel.unpack = .infinity s) ∨ x.toModel.unpack = .notANumber ∨
      ∃ s a, Storable a ∧ x.toModel.unpack = unpacked s a :=
  ModelPreview.unpack_cases x.toModel.toBits.toBitVec

/-- A 32-bit value is read as the value that is stored. -/
theorem unpack_pack_unpack (x : Float32) :
    unpack binary32 (pack binary32 x.toModel.unpack) = x.toModel.unpack := by
  rcases Single.unpack_cases x with ⟨s, h⟩ | h | ⟨s, a, ha, h⟩ <;> rw [h]
  · cases s <;> rfl
  · rfl
  · exact unpack_pack_unpacked s ha

/-- Multiplying by one rounds the magnitude to itself. -/
theorem mul_one_unpack (x : Float32) :
    UnpackedFloat.mul binary32 x.toModel.unpack (1 : Float32).toModel.unpack = x.toModel.unpack := by
  have hone : (1 : Float32).toModel.unpack = .finite .positive (2 ^ 23) (-23) (by decide) := rfl
  rw [hone]
  rcases Single.unpack_cases x with ⟨s, h⟩ | h | ⟨s, a, ha, h⟩ <;> rw [h]
  · cases s <;> rfl
  · rfl
  rcases Nat.eq_zero_or_pos a.significand with hzero | hpos
  · rw [unpacked, dif_pos hzero]
    cases s <;> rfl
  · -- One has all digits of the format, so the product has more of them and is rounded.
    have hproduct := roundWithAccuracy_mul s ha storable_storedOne hpos (by decide)
    rw [toRat_storedOne, mul_one, Binary.Format.roundRat_toRat single_precision_pos ha.canonical]
      at hproduct
    refine Eq.trans ?_ hproduct
    rw [unpacked, dif_neg hpos.ne']
    cases s <;> rfl

/-! ## Agreement -/

namespace Single

/-- Two 32-bit values agree if they are equal as numbers, or if both are NaN. -/
def Agree (x y : Float32) : Prop := (x == y) = true ∨ x.isNaN = true ∧ y.isNaN = true

variable {x x' y y' z : Float32}

theorem agree_iff_alike : Agree x y ↔ Alike x.toModel.unpack y.toModel.unpack :=
  Alike.iff_compare.symm

theorem Agree.refl (x : Float32) : Agree x x := agree_iff_alike.2 (.same _)

theorem Agree.trans (h : Agree x y) (h' : Agree y z) : Agree x z :=
  agree_iff_alike.2 ((agree_iff_alike.1 h).trans (agree_iff_alike.1 h'))

theorem Agree.beq (h : Agree x y) (hx : x.isNaN = false) : (x == y) = true :=
  h.resolve_right fun hnone => Bool.false_ne_true (hx.symm.trans hnone.1)

theorem isNaN_of_beq (h : (x == y) = true) : x.isNaN = false := by
  cases hx : x.isNaN with
  | false => rfl
  | true =>
    change (x.toModel.unpack.compare y.toModel.unpack == some .eq) = true at h
    rw [eq_notANumber hx] at h
    cases h

theorem isNaN_of_isFinite (hx : x.isFinite = true) : x.isNaN = false :=
  isNaN_of_beq (beq_self_of_isFinite hx)

/-- What is stored as alike agrees. -/
theorem agree_of_alike {u v : UnpackedFloat} (h : Alike u v) :
    Agree (.ofModel (.pack u)) (.ofModel (.pack v)) :=
  agree_iff_alike.2 h.stored

theorem agree_pack_unpack (x : Float32) : Agree (.ofModel (.pack x.toModel.unpack)) x := by
  rw [agree_iff_alike]
  change Alike (unpack binary32 (pack binary32 x.toModel.unpack)) _
  rw [unpack_pack_unpack]
  exact .same _

theorem Agree.add (hx : Agree x x') (hy : Agree y y') : Agree (x + y) (x' + y') :=
  agree_of_alike ((agree_iff_alike.1 hx).add (agree_iff_alike.1 hy))

theorem Agree.sub (hx : Agree x x') (hy : Agree y y') : Agree (x - y) (x' - y') :=
  agree_of_alike ((agree_iff_alike.1 hx).sub (agree_iff_alike.1 hy))

theorem Agree.mul (hx : Agree x x') (hy : Agree y y') : Agree (x * y) (x' * y') :=
  agree_of_alike ((agree_iff_alike.1 hx).mul (agree_iff_alike.1 hy))

/-! ## Zero and one -/

theorem agree_add_zero (x : Float32) : Agree (x + 0) x :=
  (agree_of_alike (.add_zero _ .positive)).trans (agree_pack_unpack x)

theorem agree_zero_add (x : Float32) : Agree (0 + x) x :=
  (agree_of_alike (.zero_add _ .positive)).trans (agree_pack_unpack x)

theorem agree_sub_zero (x : Float32) : Agree (x - 0) x := by
  refine (agree_of_alike ?_).trans (agree_pack_unpack x)
  rw [unpacked_sub_eq_add_neg]
  exact .add_zero _ .negative

theorem agree_mul_one (x : Float32) : Agree (x * 1) x := by
  refine (agree_of_alike ?_).trans (agree_pack_unpack x)
  rw [mul_one_unpack]
  exact .same _

theorem agree_mul_zero (hx : x.isFinite = true) : Agree (x * 0) 0 :=
  (agree_of_alike (.mul_zero hx .positive)).trans (agree_pack_unpack 0)

theorem agree_zero_mul (hx : x.isFinite = true) : Agree (0 * x) 0 :=
  (agree_of_alike (.zero_mul hx .positive)).trans (agree_pack_unpack 0)

/-! ## The smaller and the larger one -/

/-- An operation on two values returns the number if there is only one, and otherwise the number whose
rank is chosen. -/
structure Selects (f : Float32 → Float32 → Float32)
    (choice : ℤ ×ₗ ℤ ×ₗ ℤ → ℤ ×ₗ ℤ ×ₗ ℤ → ℤ ×ₗ ℤ ×ₗ ℤ) : Prop where
  eq_right : ∀ {x y}, x.isNaN = true → f x y = y
  eq_left : ∀ {x y}, x.isNaN = false → y.isNaN = true → f x y = x
  isNaN : ∀ {x y}, x.isNaN = false → y.isNaN = false → (f x y).isNaN = false
  rank : ∀ {x y}, x.isNaN = false → y.isNaN = false → rank (f x y) = choice (rank x) (rank y)

theorem selects_least : Selects least min where
  eq_right hx := if_pos hx
  eq_left hx hy := by simp only [least, hx, hy, Bool.false_eq_true, if_false, if_true]
  isNaN := isNaN_least
  rank := rank_least

theorem selects_greatest : Selects greatest max where
  eq_right hx := if_pos hx
  eq_left hx hy := by simp only [greatest, hx, hy, Bool.false_eq_true, if_false, if_true]
  isNaN := isNaN_greatest
  rank := rank_greatest

theorem Agree.isNaN_eq (h : Agree x y) : x.isNaN = y.isNaN := (agree_iff_alike.1 h).isNaN_eq

theorem agree_iff_rank (hx : x.isNaN = false) (hy : y.isNaN = false) : Agree x y ↔ rank x = rank y := by
  rw [← beq_iff_rank hx hy, Agree, hx]
  simp

namespace Selects

variable {f : Float32 → Float32 → Float32}
  {choice : ℤ ×ₗ ℤ ×ₗ ℤ → ℤ ×ₗ ℤ ×ₗ ℤ → ℤ ×ₗ ℤ ×ₗ ℤ} (hf : Selects f choice)

include hf

theorem agree (hx : Agree x x') (hy : Agree y y') : Agree (f x y) (f x' y') := by
  -- Either both pairs lack a number at the same place, or the ranks decide.
  have hx' := hx.isNaN_eq
  have hy' := hy.isNaN_eq
  cases hxn : x.isNaN with
  | true =>
    rw [hf.eq_right hxn, hf.eq_right (hx' ▸ hxn)]
    exact hy
  | false =>
    cases hyn : y.isNaN with
    | true =>
      rw [hf.eq_left hxn hyn, hf.eq_left (hx' ▸ hxn) (hy' ▸ hyn)]
      exact hx
    | false =>
      rw [hxn] at hx'
      rw [hyn] at hy'
      rw [agree_iff_rank hxn hx'.symm] at hx
      rw [agree_iff_rank hyn hy'.symm] at hy
      rw [agree_iff_rank (hf.isNaN hxn hyn) (hf.isNaN hx'.symm hy'.symm), hf.rank hxn hyn,
        hf.rank hx'.symm hy'.symm, hx, hy]

theorem agree_comm (hchoice : ∀ a b, choice a b = choice b a) (x y : Float32) :
    Agree (f x y) (f y x) := by
  cases hx : x.isNaN with
  | true =>
    rw [hf.eq_right hx]
    cases hy : y.isNaN with
    | true =>
      rw [hf.eq_right hy]
      exact .inr ⟨hy, hx⟩
    | false =>
      rw [hf.eq_left hy hx]
      exact .refl y
  | false =>
    cases hy : y.isNaN with
    | true =>
      rw [hf.eq_left hx hy, hf.eq_right hy]
      exact .refl x
    | false =>
      rw [agree_iff_rank (hf.isNaN hx hy) (hf.isNaN hy hx), hf.rank hx hy, hf.rank hy hx]
      exact hchoice _ _

theorem agree_ite (hchoice : ∀ a b, choice a b = choice b a) (c : Bool) (x y : Float32) :
    Agree (f (if c then y else x) (if c then x else y)) (f x y) := by
  cases c with
  | false => exact .refl _
  | true => exact hf.agree_comm hchoice y x

/-- A number on the left is enough for the result to be a number. -/
theorem isNaN_of_left (hx : x.isNaN = false) : (f x y).isNaN = false := by
  cases hy : y.isNaN with
  | true => rwa [hf.eq_left hx hy]
  | false => exact hf.isNaN hx hy

theorem beq (hx : (x == x') = true) (hy : Agree y y') : (f x y == f x' y') = true :=
  (hf.agree (.inl hx) hy).beq (hf.isNaN_of_left (isNaN_of_beq hx))

end Selects

end Single
end ModelPreview
