import Mathlib
import ModelPreview.Proofs.Number.Unpacked

/-!
# Arithmetic with 32-bit values

A 32-bit value that is finite and not negative stands for a rational number.  Sums, differences,
products and quotients of such values stand for the nearest values to the exact results, as long as
these are neither negative nor too large.  Comparing values is comparing the numbers they stand for.

Main definitions:

- `HasValue`: a 32-bit value stands for a number that is not negative.

Main results:

- `HasValue.add`, `HasValue.sub`, `HasValue.mul` and `HasValue.div`: the results of operations.
- `HasValue.le_iff` and `HasValue.lt_iff`: comparisons.
- `hasValue_ofWord` and `hasValue_ofWord_of_le`: words are rounded, and small ones are values.
-/

namespace ModelPreview

open Float.Model (UnpackedFloat totalExponent)
open Float.Model.Format (binary32)
open Float.Model.UnpackedFloat
open Binary (Magnitude single)

/-! ## Values -/

/-- A 32-bit value stands for a number that is not negative. -/
def HasValue (x : Float32) (q : ℚ) : Prop :=
  ∃ s y, Storable y ∧ y.toRat = q ∧ (q ≠ 0 → s = .positive) ∧ x.toModel.unpack = unpacked s y

variable {x y : Float32} {p q : ℚ}

theorem HasValue.nonneg (h : HasValue x q) : 0 ≤ q := by
  obtain ⟨-, y, -, rfl, -⟩ := h
  exact y.toRat_nonneg

theorem hasValue_of_zero {s : Sign} (h : x.toModel.unpack = .zero s) : HasValue x 0 :=
  ⟨s, _, storable_zero, by simp, fun hne => absurd rfl hne, h⟩

/-- What stands for a number is a zero, or a positive number of places. -/
theorem HasValue.cases (h : HasValue x q) :
    (q = 0 ∧ ∃ s, x.toModel.unpack = .zero s) ∨
    (0 < q ∧ ∃ y hpos, Storable y ∧ y.toRat = q ∧
      x.toModel.unpack = .finite .positive y.significand y.exponent hpos) := by
  obtain ⟨s, y, hy, rfl, hs, hx⟩ := h
  rcases Nat.eq_zero_or_pos y.significand with hzero | hpos
  · rw [unpacked, dif_pos hzero] at hx
    exact .inl ⟨Magnitude.toRat_eq_zero_iff.2 hzero, s, hx⟩
  · have hvalue := Magnitude.toRat_pos hpos
    rw [unpacked, dif_neg hpos.ne', hs hvalue.ne'] at hx
    exact .inr ⟨hvalue, y, hpos, hy, rfl, hx⟩

/-- The nearest value of a number can be stored, unless the number is too large. -/
theorem storable_roundRat (hq : 0 ≤ q) (hlt : q < 2 ^ (127 : ℤ)) : Storable (single.roundRat q) where
  canonical := Binary.Format.canonical_roundRat single_precision_pos hq
  exponent_le := Binary.Format.exponent_roundRat_le (f := single) hq hlt (by decide)

theorem hasValue_pack_roundRat (hq : 0 ≤ q) (hlt : q < 2 ^ (127 : ℤ)) :
    HasValue (.ofModel (.pack (unpacked .positive (single.roundRat q)))) (single.nearest q) := by
  have hstorable := storable_roundRat hq hlt
  exact ⟨.positive, _, hstorable, rfl, fun _ => rfl, unpack_pack_unpacked _ hstorable⟩

/-- A value stands for its own nearest value. -/
theorem HasValue.nearest_eq (h : HasValue x q) : single.nearest q = q := by
  obtain ⟨-, y, hy, rfl, -⟩ := h
  exact Binary.Format.nearest_toRat single_precision_pos hy.canonical

/-- Storing again what has been read. -/
theorem HasValue.pack_unpack (h : HasValue x q) :
    HasValue (.ofModel (.pack x.toModel.unpack)) q := by
  obtain ⟨s, y, hy, hvalue, hs, hx⟩ := h
  refine ⟨s, y, hy, hvalue, hs, ?_⟩
  rw [hx]
  exact unpack_pack_unpacked s hy

theorem hasValue_pack_zero (s : Sign) : HasValue (.ofModel (.pack (.zero s))) 0 :=
  hasValue_of_zero (unpack_pack_zero s)

/-! ## Sums and differences -/

/-- The digits of a magnitude at an exponent that is not greater. -/
def digitsAt (e : ℤ) (a : Magnitude) : ℕ := a.significand <<< (a.exponent - e).toNat

theorem digitsAt_mul {a : Magnitude} {e : ℤ} (h : e ≤ a.exponent) :
    (digitsAt e a : ℚ) * 2 ^ e = a.toRat := by
  obtain ⟨k, hk⟩ := Int.le.dest h
  have hamount : (a.exponent - e).toNat = k := by omega
  rw [digitsAt, hamount, Magnitude.toRat, ← hk, zpow_add₀ two_ne_zero, zpow_natCast,
    Nat.shiftLeft_eq]
  push_cast
  ring

theorem normalize_natCast (m : ℕ) (e : ℤ) :
    UnpackedFloat.normalize binary32 m e .positive =
      unpacked .positive (single.roundRat (m * 2 ^ e)) := by
  unfold UnpackedFloat.normalize
  rcases Nat.eq_zero_or_pos m with rfl | hm
  · have hnone : ((0 : ℕ) : ℚ) * 2 ^ e = 0 := by rw [Nat.cast_zero, zero_mul]
    rw [hnone]
    rfl
  · have hcompare : compare (m : ℤ) 0 = .gt := compare_gt_iff_gt.2 (by exact_mod_cast hm)
    rw [hcompare]
    exact round_eq .positive hm e

/-- A sum stands for the nearest value. -/
theorem HasValue.add (hx : HasValue x p) (hy : HasValue y q) (hlt : p + q < 2 ^ (127 : ℤ)) :
    HasValue (x + y) (single.nearest (p + q)) := by
  change HasValue (.ofModel (.pack (UnpackedFloat.add binary32 x.toModel.unpack y.toModel.unpack))) _
  have hstoredx := hx.pack_unpack
  have hstoredy := hy.pack_unpack
  rcases hx.cases with ⟨rfl, s, hux⟩ | ⟨hp, a, ha, -, hap, hux⟩ <;>
    rcases hy.cases with ⟨rfl, t, huy⟩ | ⟨hq, b, hb, -, hbq, huy⟩
  · rw [hux, huy, add_zero, Binary.Format.nearest_zero]
    change HasValue (.ofModel (.pack (if s == t then .zero s else .zero .positive))) 0
    split <;> exact hasValue_pack_zero _
  · rw [zero_add, hy.nearest_eq, hux, huy]
    rwa [huy] at hstoredy
  · rw [add_zero, hx.nearest_eq, hux, huy]
    rwa [hux] at hstoredx
  · have hvalue : ((digitsAt (min a.exponent b.exponent) a +
        digitsAt (min a.exponent b.exponent) b : ℕ) : ℚ) * 2 ^ min a.exponent b.exponent = p + q := by
      rw [Nat.cast_add, add_mul, digitsAt_mul (min_le_left _ _), digitsAt_mul (min_le_right _ _),
        hap, hbq]
    have hsum := normalize_natCast (digitsAt (min a.exponent b.exponent) a +
      digitsAt (min a.exponent b.exponent) b) (min a.exponent b.exponent)
    rw [hvalue, Nat.cast_add] at hsum
    rw [hux, huy]
    change HasValue (.ofModel (.pack (UnpackedFloat.normalize binary32
      ((digitsAt _ a : ℤ) + (digitsAt _ b : ℤ)) _ .positive))) _
    rw [hsum]
    exact hasValue_pack_roundRat (by positivity) hlt

/-- A difference that is not negative stands for the nearest value. -/
theorem HasValue.sub (hx : HasValue x p) (hy : HasValue y q) (hle : q ≤ p)
    (hlt : p < 2 ^ (127 : ℤ)) : HasValue (x - y) (single.nearest (p - q)) := by
  change HasValue (.ofModel (.pack (UnpackedFloat.sub binary32 x.toModel.unpack y.toModel.unpack))) _
  have hstoredx := hx.pack_unpack
  rcases hx.cases with ⟨rfl, s, hux⟩ | ⟨hp, a, ha, -, hap, hux⟩ <;>
    rcases hy.cases with ⟨rfl, t, huy⟩ | ⟨hq, b, hb, -, hbq, huy⟩
  · rw [hux, huy, sub_zero, Binary.Format.nearest_zero]
    change HasValue (.ofModel (.pack (if s == -t then .zero s else .zero .positive))) 0
    split <;> exact hasValue_pack_zero _
  · exact absurd hle (not_le.2 hq)
  · rw [sub_zero, hx.nearest_eq, hux, huy]
    rwa [hux] at hstoredx
  · have hvaluea := digitsAt_mul (min_le_left a.exponent b.exponent)
    have hvalueb := digitsAt_mul (min_le_right a.exponent b.exponent)
    have hfewer : digitsAt (min a.exponent b.exponent) b ≤ digitsAt (min a.exponent b.exponent) a := by
      have hscaled : (digitsAt (min a.exponent b.exponent) b : ℚ) * 2 ^ min a.exponent b.exponent ≤
          digitsAt (min a.exponent b.exponent) a * 2 ^ min a.exponent b.exponent := by
        rw [hvaluea, hvalueb, hap, hbq]
        exact hle
      exact_mod_cast le_of_mul_le_mul_right hscaled (two_zpow_pos _)
    have hvalue : ((digitsAt (min a.exponent b.exponent) a -
        digitsAt (min a.exponent b.exponent) b : ℕ) : ℚ) * 2 ^ min a.exponent b.exponent = p - q := by
      rw [Nat.cast_sub hfewer, sub_mul, hvaluea, hvalueb, hap, hbq]
    have hdiff := normalize_natCast (digitsAt (min a.exponent b.exponent) a -
      digitsAt (min a.exponent b.exponent) b) (min a.exponent b.exponent)
    rw [hvalue, Nat.cast_sub hfewer] at hdiff
    rw [hux, huy]
    change HasValue (.ofModel (.pack (UnpackedFloat.normalize binary32
      ((digitsAt _ a : ℤ) - (digitsAt _ b : ℤ)) _ .positive))) _
    rw [hdiff]
    exact hasValue_pack_roundRat (sub_nonneg.2 hle) (by linarith)

/-! ## Products and quotients -/

/-- A product of digits has enough of them. -/
theorem exponent_add_le_place {a b : Magnitude} (ha : Storable a) (hb : Storable b)
    (hapos : 0 < a.significand) (hbpos : 0 < b.significand) :
    a.exponent + b.exponent ≤ single.place (a.toRat * b.toRat) := by
  have hvalue : a.toRat * b.toRat =
      ((a.significand * b.significand : ℕ) : ℚ) * 2 ^ (a.exponent + b.exponent) := by
    rw [Magnitude.toRat, Magnitude.toRat, zpow_add₀ two_ne_zero]
    push_cast
    ring
  have hmany (h : 2 ^ 23 ≤ a.significand * b.significand) :
      a.exponent + b.exponent ≤ single.place (a.toRat * b.toRat) := by
    apply Binary.Format.le_place_of_le
    have hcast : ((2 ^ 23 : ℕ) : ℚ) ≤ ((a.significand * b.significand : ℕ) : ℚ) := by exact_mod_cast h
    rw [hvalue, zpow_add₀ two_ne_zero]
    refine mul_le_mul_of_nonneg_right ?_ (two_zpow_pos _).le
    exact hcast
  have hleast : (-149 : ℤ) ≤ single.place (a.toRat * b.toRat) := Binary.Format.leastExponent_le_place
  rcases lt_or_ge (-149) a.exponent with hlta | hlea
  · have hleading : 2 ^ 23 ≤ a.significand := ha.canonical.le_significand hlta
    exact hmany (hleading.trans (Nat.le_mul_of_pos_right _ hbpos))
  rcases lt_or_ge (-149) b.exponent with hltb | hleb
  · have hleading : 2 ^ 23 ≤ b.significand := hb.canonical.le_significand hltb
    exact hmany (hleading.trans (Nat.le_mul_of_pos_left _ hapos))
  · omega

/-- A product of digits is rounded to the nearest value. -/
theorem roundWithAccuracy_mul (s : Sign) {a b : Magnitude} (ha : Storable a) (hb : Storable b)
    (hapos : 0 < a.significand) (hbpos : 0 < b.significand) :
    roundWithAccuracy binary32 s (a.significand * b.significand) (a.exponent + b.exponent) .exact =
      unpacked s (single.roundRat (a.toRat * b.toRat)) := by
  have hexact : a.toRat * b.toRat / 2 ^ (a.exponent + b.exponent) =
      ((a.significand * b.significand : ℕ) : ℚ) := by
    rw [Magnitude.toRat, Magnitude.toRat, zpow_add₀ two_ne_zero]
    have h1 := two_zpow_pos a.exponent
    have h2 := two_zpow_pos b.exponent
    push_cast
    field_simp
  have hdigits : Describes (.ofMantissaAndAccuracy (a.significand * b.significand) .exact)
      (a.toRat * b.toRat / 2 ^ (a.exponent + b.exponent)) := by
    rw [hexact]
    exact describes_exact _
  exact roundWithAccuracy_eq s (mul_pos (Magnitude.toRat_pos hapos) (Magnitude.toRat_pos hbpos))
    hdigits (.inl (Nat.mul_pos hapos hbpos)) (exponent_add_le_place ha hb hapos hbpos)

/-- A product stands for the nearest value. -/
theorem HasValue.mul (hx : HasValue x p) (hy : HasValue y q) (hlt : p * q < 2 ^ (127 : ℤ)) :
    HasValue (x * y) (single.nearest (p * q)) := by
  change HasValue (.ofModel (.pack (UnpackedFloat.mul binary32 x.toModel.unpack y.toModel.unpack))) _
  rcases hx.cases with ⟨rfl, s, hux⟩ | ⟨hp, a, ha, hastorable, hap, hux⟩ <;>
    rcases hy.cases with ⟨rfl, t, huy⟩ | ⟨hq, b, hb, hbstorable, hbq, huy⟩
  · rw [hux, huy, mul_zero, Binary.Format.nearest_zero]
    exact hasValue_pack_zero _
  · rw [hux, huy, zero_mul, Binary.Format.nearest_zero]
    exact hasValue_pack_zero _
  · rw [hux, huy, mul_zero, Binary.Format.nearest_zero]
    exact hasValue_pack_zero _
  · rw [hux, huy]
    change HasValue (.ofModel (.pack (roundWithAccuracy binary32 .positive _ _ .exact))) _
    rw [roundWithAccuracy_mul .positive hastorable hbstorable ha hb, hap, hbq]
    exact hasValue_pack_roundRat (by positivity) hlt

/-- The digits of a quotient and what is left of it. -/
theorem describes_div (m n : ℕ) (hn : 0 < n) :
    Describes (.ofMantissaAndAccuracy (m / n) (accuracyOfFraction (m % n) n)) ((m : ℚ) / n) := by
  have hnq : (0 : ℚ) < n := by exact_mod_cast hn
  have hsplit : (m : ℚ) / n = (m / n : ℕ) + ((m % n : ℕ) : ℚ) / n := by
    rw [div_eq_iff hnq.ne', add_mul, div_mul_cancel₀ _ hnq.ne']
    exact_mod_cast (Nat.div_add_mod' m n).symm
  have hrest : ((m % n : ℕ) : ℚ) / n < 1 := by
    rw [div_lt_one hnq]
    exact_mod_cast Nat.mod_lt m hn
  rw [hsplit]
  unfold accuracyOfFraction
  split
  · rename_i hzero
    simp [hzero, Describes, ExtendedMantissa.ofMantissaAndAccuracy]
  rename_i hpos
  have hpos' : 0 < ((m % n : ℕ) : ℚ) / n := by
    have : (0 : ℚ) < (m % n : ℕ) := by exact_mod_cast Nat.pos_of_ne_zero hpos
    positivity
  have htwice : 2 * (((m % n : ℕ) : ℚ) / n) = ((2 * (m % n) : ℕ) : ℚ) / n := by
    push_cast
    ring
  rcases lt_trichotomy (2 * (m % n)) n with hlt | heq | hgt
  · have hhalf : ((2 * (m % n) : ℕ) : ℚ) / n < 1 := (div_lt_one hnq).2 (by exact_mod_cast hlt)
    rw [compare_lt_iff_lt.2 hlt]
    simp only [Describes, ExtendedMantissa.ofMantissaAndAccuracy]
    constructor <;> linarith
  · have hhalf : ((2 * (m % n) : ℕ) : ℚ) / n = 1 := by rw [heq, div_self hnq.ne']
    rw [compare_eq_iff_eq.2 heq]
    simp only [Describes, ExtendedMantissa.ofMantissaAndAccuracy]
    linarith
  · have hhalf : 1 < ((2 * (m % n) : ℕ) : ℚ) / n := (one_lt_div hnq).2 (by exact_mod_cast hgt)
    rw [compare_gt_iff_gt.2 hgt]
    simp only [Describes, ExtendedMantissa.ofMantissaAndAccuracy]
    constructor <;> linarith

theorem totalExponent_eq_log {a : Magnitude} (ha : 0 < a.significand) :
    totalExponent a.significand a.exponent = Int.log 2 a.toRat + 1 := by
  have hdigits : Describes (.ofMantissaAndAccuracy a.significand .exact)
      (a.toRat / 2 ^ a.exponent) := by
    rw [Magnitude.toRat, mul_div_cancel_right₀ _ (two_zpow_pos _).ne']
    exact describes_exact _
  exact totalExponent_eq hdigits ha

/-- The exponent at which the digits of a quotient are computed. -/
def quotientPlace (a b : Magnitude) : ℤ :=
  min (a.exponent - b.exponent)
    (binary32.targetExponent
      (totalExponent a.significand a.exponent - totalExponent b.significand b.exponent))

section Quotient

variable {a b : Magnitude} (ha : 0 < a.significand) (hb : 0 < b.significand)

include ha hb

theorem le_log_div : Int.log 2 a.toRat - Int.log 2 b.toRat - 1 ≤ Int.log 2 (a.toRat / b.toRat) := by
  have hap := Magnitude.toRat_pos ha
  have hbp := Magnitude.toRat_pos hb
  refine (Int.zpow_le_iff_le_log one_lt_two (div_pos hap hbp)).1 ?_
  have hlow : (2 : ℚ) ^ Int.log 2 a.toRat ≤ a.toRat := Int.zpow_log_le_self one_lt_two hap
  have hhigh : b.toRat < 2 ^ (Int.log 2 b.toRat + 1) := Int.lt_zpow_succ_log_self one_lt_two _
  rw [Nat.cast_ofNat, sub_sub, zpow_sub₀ two_ne_zero]
  exact div_le_div₀ hap.le hlow hbp hhigh.le

theorem quotientPlace_le :
    quotientPlace a b ≤ max (Int.log 2 a.toRat - Int.log 2 b.toRat - 24) (-149) := by
  refine (min_le_right _ _).trans ?_
  rw [totalExponent_eq_log ha, totalExponent_eq_log hb, add_sub_add_right_eq_sub]
  exact le_rfl

theorem quotientPlace_le_place : quotientPlace a b ≤ single.place (a.toRat / b.toRat) := by
  have hle := quotientPlace_le ha hb
  have hlog := le_log_div ha hb
  change _ ≤ max (-149) (Int.log 2 (a.toRat / b.toRat) - 24 + 1)
  omega

omit ha in
theorem digitsAt_div (a : Magnitude) :
    (digitsAt (quotientPlace a b + b.exponent) a : ℚ) / b.significand =
      a.toRat / b.toRat / 2 ^ quotientPlace a b := by
  have hle : quotientPlace a b + b.exponent ≤ a.exponent := by
    have := min_le_left (a.exponent - b.exponent) (binary32.targetExponent
      (totalExponent a.significand a.exponent - totalExponent b.significand b.exponent))
    unfold quotientPlace
    omega
  have hbq : (0 : ℚ) < b.significand := by exact_mod_cast hb
  have h1 := two_zpow_pos (quotientPlace a b)
  have h2 := two_zpow_pos b.exponent
  rw [← digitsAt_mul hle, zpow_add₀ two_ne_zero, Magnitude.toRat]
  field_simp

/-- Unless the quotient is very small, its digits begin in front of the point. -/
theorem digitsAt_div_pos : 0 < digitsAt (quotientPlace a b + b.exponent) a / b.significand ∨
    quotientPlace a b ≤ -149 := by
  rcases le_or_gt (quotientPlace a b) (-149) with hle | hgt
  · exact .inr hle
  refine .inl (Nat.div_pos ?_ hb)
  have hap := Magnitude.toRat_pos ha
  have hbp := Magnitude.toRat_pos hb
  have hplace := quotientPlace_le ha hb
  have hlog := le_log_div ha hb
  have hone : 1 ≤ a.toRat / b.toRat / 2 ^ quotientPlace a b := by
    have hlow : (2 : ℚ) ^ Int.log 2 (a.toRat / b.toRat) ≤ a.toRat / b.toRat :=
      Int.zpow_log_le_self one_lt_two (div_pos hap hbp)
    rw [one_le_div (two_zpow_pos _)]
    exact (zpow_le_zpow_right₀ one_le_two (by omega)).trans hlow
  rw [← digitsAt_div hb a, one_le_div (by exact_mod_cast hb)] at hone
  exact_mod_cast hone

end Quotient

/-- A quotient stands for the nearest value. -/
theorem HasValue.div (hx : HasValue x p) (hy : HasValue y q) (hq : 0 < q)
    (hlt : p / q < 2 ^ (127 : ℤ)) : HasValue (x / y) (single.nearest (p / q)) := by
  change HasValue (.ofModel (.pack (UnpackedFloat.div binary32 x.toModel.unpack y.toModel.unpack))) _
  rcases hy.cases with ⟨rfl, t, huy⟩ | ⟨-, b, hb, -, rfl, huy⟩
  · exact absurd hq (lt_irrefl 0)
  rcases hx.cases with ⟨rfl, s, hux⟩ | ⟨hp, a, ha, -, rfl, hux⟩
  · rw [hux, huy, zero_div, Binary.Format.nearest_zero]
    exact hasValue_pack_zero _
  have hdigits := describes_div (digitsAt (quotientPlace a b + b.exponent) a) b.significand hb
  rw [digitsAt_div hb a] at hdigits
  have hquotient := roundWithAccuracy_eq .positive (div_pos hp hq) hdigits (digitsAt_div_pos ha hb)
    (quotientPlace_le_place ha hb)
  have hamount : a.exponent - b.exponent - quotientPlace a b =
      a.exponent - (quotientPlace a b + b.exponent) := by omega
  rw [hux, huy]
  simp only [UnpackedFloat.div, divCore]
  rw [← quotientPlace, hamount]
  change HasValue (.ofModel (.pack (roundWithAccuracy binary32 .positive
    (digitsAt (quotientPlace a b + b.exponent) a / b.significand) (quotientPlace a b) _))) _
  rw [← digitsAt, hquotient]
  exact hasValue_pack_roundRat (by positivity) hlt

/-! ## Comparisons -/

theorem compare_toRat {a b : Magnitude} (ha : Storable a) (hb : Storable b) :
    (compare a.exponent b.exponent).then (compare a.significand b.significand) =
      compare a.toRat b.toRat := by
  rcases lt_trichotomy a.exponent b.exponent with hlt | heq | hgt
  · rw [compare_lt_iff_lt.2 hlt, compare_lt_iff_lt.2 (ha.canonical.toRat_lt_of_exponent_lt
      single_precision_pos hb.canonical hlt)]
    rfl
  · have hunit := two_zpow_pos b.exponent
    rw [compare_eq_iff_eq.2 heq, Ordering.then, Magnitude.toRat, Magnitude.toRat, heq]
    rcases lt_trichotomy a.significand b.significand with hlt | heq | hgt
    · rw [compare_lt_iff_lt.2 hlt, compare_lt_iff_lt.2 (by gcongr)]
    · rw [compare_eq_iff_eq.2 heq, heq, compare_eq_iff_eq.2 rfl]
    · rw [compare_gt_iff_gt.2 hgt, compare_gt_iff_gt.2 (by gcongr)]
  · rw [compare_gt_iff_gt.2 hgt, compare_gt_iff_gt.2 (hb.canonical.toRat_lt_of_exponent_lt
      single_precision_pos ha.canonical hgt)]
    rfl

/-- Values are compared like the numbers they stand for. -/
theorem HasValue.compare_eq (hx : HasValue x p) (hy : HasValue y q) :
    x.toModel.unpack.compare y.toModel.unpack = some (compare p q) := by
  rcases hx.cases with ⟨rfl, s, hux⟩ | ⟨hp, a, ha, hastorable, rfl, hux⟩ <;>
    rcases hy.cases with ⟨rfl, t, huy⟩ | ⟨hq, b, hb, hbstorable, rfl, huy⟩ <;>
    rw [hux, huy]
  · rfl
  · rw [compare_lt_iff_lt.2 hq]
    rfl
  · rw [compare_gt_iff_gt.2 hp]
    rfl
  · rw [← compare_toRat hastorable hbstorable]
    rfl

theorem le_iff_isLE : x ≤ y ↔ (x.toModel.unpack.compare y.toModel.unpack).any (·.isLE) = true :=
  decide_eq_true_iff

theorem lt_iff_compare : x < y ↔ (x.toModel.unpack.compare y.toModel.unpack == some .lt) = true :=
  decide_eq_true_iff

theorem HasValue.le_iff (hx : HasValue x p) (hy : HasValue y q) : x ≤ y ↔ p ≤ q := by
  rw [le_iff_isLE, hx.compare_eq hy, Option.any_some]
  rw [← not_lt, ← compare_gt_iff_gt]
  cases compare p q <;> decide

theorem HasValue.lt_iff (hx : HasValue x p) (hy : HasValue y q) : x < y ↔ p < q := by
  rw [lt_iff_compare, hx.compare_eq hy, beq_iff_eq, Option.some.injEq]
  exact compare_lt_iff_lt

/-- The magnitude stored in a word is the value of the word. -/
theorem hasValue_ofBits {a : Magnitude} (ha : Storable a) :
    HasValue (.ofBits (.ofNat (single.bits a))) a.toRat := by
  obtain ⟨e, m, he, hbits, hunpack⟩ := exists_unpack_eq .positive ha
  have hlt := (ofBits_bits ha).1
  have hword : (UInt32.ofNat (single.bits a)).toBitVec = packComponents binary32 .positive e m := by
    apply BitVec.eq_of_toNat_eq
    rw [toNat_packComponents, UInt32.toNat_toBitVec, UInt32.toNat_ofNat_of_lt' (hlt.trans (by decide)),
      ← hbits]
    simp [Sign.toBitVec]
  refine ⟨.positive, a, ha, rfl, fun _ => rfl, ?_⟩
  change unpack binary32 (pack binary32 (unpack binary32 (UInt32.ofNat (single.bits a)).toBitVec)) = _
  rw [hword, hunpack, unpack_pack_unpacked _ ha]

/-- The form in which the format stores one. -/
def storedOne : Magnitude := ⟨2 ^ 23, -23⟩

theorem storable_storedOne : Storable storedOne :=
  ⟨⟨by decide, by decide, fun _ => by decide⟩, by decide⟩

theorem toRat_storedOne : storedOne.toRat = 1 := by
  rw [storedOne, Magnitude.toRat_mk]
  norm_num

theorem hasValue_one : HasValue 1 1 := by
  have hone : (1 : Float32) = .ofBits (.ofNat (single.bits storedOne)) := by decide +kernel
  have hvalue := hasValue_ofBits storable_storedOne
  rwa [← hone, toRat_storedOne] at hvalue

/-- A word stands for the nearest value. -/
theorem hasValue_ofWord (n : UInt32) : HasValue (Binary.ofWord n) (single.nearest n.toNat) := by
  have hnarrow : single.narrow ⟨n.toNat, 0⟩ = single.roundRat n.toNat := by
    rw [Binary.Format.narrow, Binary.Format.round_eq_roundRat (Magnitude.den_pos _),
      Magnitude.num_div_den, Magnitude.toRat_mk, zpow_zero, mul_one]
  have hlt : (n.toNat : ℚ) < 2 ^ (127 : ℤ) := by
    have hcast : (n.toNat : ℚ) < ((2 ^ 32 : ℕ) : ℚ) := by exact_mod_cast n.toNat_lt
    exact hcast.trans_le (by norm_num)
  have hstored : HasValue (.ofBits (.ofNat (single.bits (single.roundRat n.toNat))))
      (single.nearest n.toNat) := hasValue_ofBits (storable_roundRat (Nat.cast_nonneg n.toNat) hlt)
  rw [← hnarrow, ← zero_add (single.bits _)] at hstored
  exact hstored

/-- A word with no more digits than the format is a value. -/
theorem hasValue_ofWord_of_le {n : UInt32} (hn : n.toNat ≤ 2 ^ 24) :
    HasValue (Binary.ofWord n) n.toNat := by
  have hvalue := hasValue_ofWord n
  rwa [Binary.Format.nearest_natCast single_precision_pos (by decide) hn] at hvalue

/-- The first natural number that is no value, `2 ^ 24 + 1`, is rounded to the one before it. -/
theorem nearest_two_pow_add_one : single.nearest 16777217 = 16777216 := by
  have hround : single.round 16777217 1 = ⟨8388608, 1⟩ := by decide +kernel
  rw [Binary.Format.round_eq_roundRat one_pos, Nat.cast_one, div_one, Nat.cast_ofNat] at hround
  rw [Binary.Format.nearest, hround, Magnitude.toRat_mk]
  norm_num

/-! ## What is known from comparisons -/

/-- A 32-bit value is an infinity, no number, negative, or it stands for a number. -/
theorem unpack_or_hasValue (x : Float32) :
    (∃ s, x.toModel.unpack = .infinity s) ∨ x.toModel.unpack = .notANumber ∨
      (∃ m e hm, x.toModel.unpack = .finite .negative m e hm) ∨ ∃ q, HasValue x q := by
  rcases unpack_cases x.toModel.toBits.toBitVec with h | h | ⟨s, a, ha, h⟩
  · exact .inl h
  · exact .inr (.inl h)
  · by_cases hs : a.toRat ≠ 0 → s = .positive
    · exact .inr (.inr (.inr ⟨_, s, a, ha, rfl, hs, h⟩))
    · push Not at hs
      obtain ⟨hne, hs⟩ := hs
      have hpos : a.significand ≠ 0 := fun hzero => hne (Magnitude.toRat_eq_zero_iff.2 hzero)
      rw [unpacked, dif_neg hpos] at h
      cases s with
      | positive => exact absurd rfl hs
      | negative => exact .inr (.inr (.inl ⟨_, _, _, h⟩))

/-- Of what is no value, only one infinity is greater than values. -/
theorem HasValue.compare_infinity (hx : HasValue x p) (s : Sign) :
    x.toModel.unpack.compare (.infinity s) = some (if s == .positive then .lt else .gt) := by
  rcases hx.cases with ⟨-, t, hx⟩ | ⟨-, a, ha, -, -, hx⟩ <;> rw [hx] <;> cases s <;> rfl

theorem HasValue.compare_notANumber (hx : HasValue x p) :
    x.toModel.unpack.compare .notANumber = none := by
  rcases hx.cases with ⟨-, t, hx⟩ | ⟨-, a, ha, -, -, hx⟩ <;> rw [hx] <;> rfl

theorem HasValue.compare_negative (hx : HasValue x p) {m : ℕ} {e : ℤ} (hm : 0 < m) :
    x.toModel.unpack.compare (.finite .negative m e hm) = some .gt := by
  rcases hx.cases with ⟨-, t, hx⟩ | ⟨-, a, ha, -, -, hx⟩ <;> rw [hx] <;> rfl

/-- What lies between zero and a value is a value. -/
theorem HasValue.exists_of_le (hy : HasValue y q) (hlow : 0 ≤ x) (hhigh : x ≤ y) :
    ∃ p, HasValue x p ∧ p ≤ q := by
  suffices h : ∃ p, HasValue x p by
    obtain ⟨p, hx⟩ := h
    exact ⟨p, hx, (hx.le_iff hy).1 hhigh⟩
  have hzero : (0 : Float32).toModel.unpack = .zero .positive := rfl
  rw [le_iff_isLE] at hlow hhigh
  rw [hzero] at hlow
  rcases unpack_or_hasValue x with ⟨s, hx⟩ | hx | ⟨m, e, hm, hx⟩ | h
  · rw [hx] at hlow hhigh
    cases s with
    | negative => cases hlow
    | positive =>
      rcases hy.cases with ⟨-, t, hy⟩ | ⟨-, b, hb, -, -, hy⟩ <;> rw [hy] at hhigh <;> cases hhigh
  · rw [hx] at hhigh
    cases hhigh
  · rw [hx] at hlow
    cases hlow
  · exact h

/-- What is greater than a value is a greater value, or it is greater than all values. -/
theorem HasValue.cases_of_lt (hx : HasValue x p) (hlt : x < y) :
    (∃ q, HasValue y q ∧ p < q) ∨ ∀ z r, HasValue z r → z ≤ y := by
  rcases unpack_or_hasValue y with ⟨s, hy⟩ | hy | ⟨m, e, hm, hy⟩ | ⟨q, hy⟩
  · rw [lt_iff_compare, hy, hx.compare_infinity] at hlt
    cases s with
    | negative => cases hlt
    | positive =>
      refine .inr fun z r hz => ?_
      rw [le_iff_isLE, hy, hz.compare_infinity]
      rfl
  · rw [lt_iff_compare, hy, hx.compare_notANumber] at hlt
    cases hlt
  · rw [lt_iff_compare, hy, hx.compare_negative] at hlt
    cases hlt
  · exact .inl ⟨q, hy, (hx.lt_iff hy).1 hlt⟩

end ModelPreview
