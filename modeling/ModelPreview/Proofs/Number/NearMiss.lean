import Mathlib
import ModelPreview.Json.Literal
import ModelPreview.Proofs.Number.Shortest

/-!
# Decimals next to a half place

A decimal that is read in two roundings, first to the 64-bit and then to the 32-bit format, is lost
if the first rounding carries it over the middle between two 32-bit values.  That needs a decimal
extremely close to such a middle.  On the coarse decimal grids there are hardly any: the multiples
of a power of ten that come close to a multiple of half a place form a lattice of integer pairs, and
a basis of short vectors leaves few pairs to look at in each of the 254 binades.

Main definitions:

- `readBack`: the 64-bit magnitude read from a few digits and a power of ten.
- `coarseExponent`: the finest grid that is searched here.
- `binadeIsSafe`: the check of one binade.

Main results:

- `exists_coordinates`: a pair of small gap has small coordinates in a basis.
- `eq_or_readBack_of_near_half`: decimals next to a half place, and where they are read.
-/

namespace ModelPreview

open Binary Json

-- Powers are those of the natural numbers, which the checks below evaluate fast.
attribute [local instance (high)] instPowNat

/-- The 64-bit magnitude read from digits and a power of ten, with one rounding for the power and
one for the result. -/
def readBack (n : ℕ) (e : ℤ) : Magnitude :=
  if e < 0 then double.div (double.round n 1) (powerOfTen (-e).toNat)
  else double.mul (double.round n 1) (powerOfTen e.toNat)

/-! ## The lattice of a binade -/

/-- The exponent of the decimal grid whose step first exceeds `0.99` places of exponent `q`. -/
def coarseExponent (q : ℤ) : ℤ := (30103 * q - 436) / 100000 + 1

/-- Numerator of the step of the coarse grid in half places. -/
def stepNum (q : ℤ) : ℕ := 10 ^ (coarseExponent q).toNat * 2 ^ (1 - q).toNat

/-- Denominator of the step of the coarse grid in half places. -/
def stepDen (q : ℤ) : ℕ := 10 ^ (-coarseExponent q).toNat * 2 ^ (q - 1).toNat

/-- How far `m` steps of the coarse grid are from `b` half places, in fractions of a half place. -/
def gap (q m b : ℤ) : ℤ := m * stepNum q - b * stepDen q

/-- The largest count of steps within a binade. -/
def maxCount (q : ℤ) : ℕ := 2 ^ 25 * stepDen q / stepNum q

/-- A count of steps and the count of half places next to it. -/
structure Approximant where
  /-- The count of steps. -/
  count : ℕ
  /-- The count of half places. -/
  halves : ℕ
  /-- Their distance. -/
  rest : ℕ

/-- Follow the continued fraction of the step as long as the counts stay below a limit.  Any two
successive approximants are a basis of the lattice; the last two have short vectors. -/
def approximants (limit : ℕ) : ℕ → Approximant → Approximant → Approximant × Approximant
  | 0, u, v => (u, v)
  | k + 1, u, v =>
    let a := min (u.rest / v.rest) ((limit - u.count) / v.count)
    approximants limit k v ⟨u.count + a * v.count, u.halves + a * v.halves, u.rest - a * v.rest⟩

/-- A basis of the lattice of a binade. -/
def basis (q : ℤ) : Approximant × Approximant :=
  approximants (2 ^ 24) 30 ⟨0, 1, stepDen q⟩
    ⟨1, stepNum q / stepDen q, stepNum q % stepDen q⟩

/-- The largest coordinate of a pair of small gap along the partner of a basis vector. -/
def coordinateBound (q : ℤ) (v : Approximant) : ℕ :=
  (2 ^ 26 * maxCount q * (gap q v.count v.halves).natAbs + stepDen q * v.count)
    / (2 ^ 26 * stepDen q)

/-- Whether a magnitude lies below `b` half places of exponent `q`. -/
def isBelowHalves (q b : ℤ) (x : Magnitude) : Bool :=
  (x.significand : ℤ) * (2 ^ (x.exponent - (q - 1)).toNat : ℕ)
    < b * (2 ^ (q - 1 - x.exponent).toNat : ℕ)

/-- Whether a magnitude lies above `b` half places of exponent `q`. -/
def isAboveHalves (q b : ℤ) (x : Magnitude) : Bool :=
  b * (2 ^ (q - 1 - x.exponent).toNat : ℕ)
    < (x.significand : ℤ) * (2 ^ (x.exponent - (q - 1)).toNat : ℕ)

/-- Whether the decimal of `m` steps is read on its own side of `b` half places: it is out of range,
not close, exactly there with an exact power of ten, or read back on the side where it is. -/
def isSafe (q m b : ℤ) : Bool :=
  m ≤ 0 || maxCount q < m || stepDen q < 2 ^ 26 * (gap q m b).natAbs
    || (gap q m b == 0 && (coarseExponent q).natAbs ≤ 11)
    || (m % 10 != 0 && gap q m b < 0 && isBelowHalves q b (readBack m.toNat (coarseExponent q)))
    || (m % 10 != 0 && 0 < gap q m b && isAboveHalves q b (readBack m.toNat (coarseExponent q)))

/-- Whether the steps are so coarse a fraction of the half places that no gap is small but zero. -/
def hasNoSmallGap (q : ℤ) : Bool :=
  (coarseExponent q).natAbs ≤ 11 && stepDen q < 2 ^ 26 * Nat.gcd (stepNum q) (stepDen q)

/-- Check all pairs of a binade with small coordinates in the basis. -/
def binadeIsSafe (q : ℤ) : Bool :=
  hasNoSmallGap q ||
    let (u, v) := basis q
    let i := coordinateBound q v
    let j := coordinateBound q u
    ((u.count : ℤ) * v.halves - v.count * u.halves).natAbs == 1
      && (List.range (2 * i + 1)).all fun a => (List.range (2 * j + 1)).all fun b =>
        isSafe q (((a : ℤ) - i) * u.count + ((b : ℤ) - j) * v.count)
          (((a : ℤ) - i) * u.halves + ((b : ℤ) - j) * v.halves)

/-- All binades of the 32-bit format pass. -/
theorem binadeIsSafe_all : ((List.range 254).all fun k => binadeIsSafe (k - 149)) = true := by
  decide +kernel

theorem binadeIsSafe_of_mem {q : ℤ} (hlow : -149 ≤ q) (hhigh : q ≤ 104) :
    binadeIsSafe q = true := by
  have h := List.all_eq_true.1 binadeIsSafe_all (q + 149).toNat (by simp; omega)
  rwa [Int.toNat_of_nonneg (by omega), add_sub_cancel_right] at h

/-! ## Coordinates -/

theorem stepDen_pos (q : ℤ) : 0 < stepDen q := by
  unfold stepDen
  positivity

theorem stepNum_pos (q : ℤ) : 0 < stepNum q := by
  unfold stepNum
  positivity

/-- A coordinate of a pair is bounded by the gaps of the pair and of the other basis vector. -/
theorem natAbs_coordinate_le {q m b s : ℤ} {v : Approximant} (hs : s.natAbs = 1) (hm : 0 ≤ m)
    (hmax : m ≤ maxCount q) (hgap : 2 ^ 26 * (gap q m b).natAbs ≤ stepDen q) :
    (s * (m * v.halves - b * v.count)).natAbs ≤ coordinateBound q v := by
  unfold coordinateBound
  rw [Nat.le_div_iff_mul_le (Nat.mul_pos (by norm_num) (stepDen_pos q)), Int.natAbs_mul, hs, one_mul]
  have hscaled : (m * v.halves - b * v.count) * stepDen q
      = gap q m b * v.count - m * gap q v.count v.halves := by
    unfold gap
    ring
  have habs : (m * v.halves - b * v.count).natAbs * stepDen q
      ≤ (gap q m b).natAbs * v.count + maxCount q * (gap q v.count v.halves).natAbs := by
    calc (m * v.halves - b * v.count).natAbs * stepDen q
        = (gap q m b * v.count - m * gap q v.count v.halves).natAbs := by
          rw [← hscaled, Int.natAbs_mul, Int.natAbs_natCast]
      _ ≤ (gap q m b * v.count).natAbs + (m * gap q v.count v.halves).natAbs :=
          Int.natAbs_sub_le _ _
      _ = (gap q m b).natAbs * v.count + m.natAbs * (gap q v.count v.halves).natAbs := by
          rw [Int.natAbs_mul, Int.natAbs_mul, Int.natAbs_natCast]
      _ ≤ (gap q m b).natAbs * v.count + maxCount q * (gap q v.count v.halves).natAbs := by
          gcongr
          omega
  calc (m * v.halves - b * v.count).natAbs * (2 ^ 26 * stepDen q)
      = 2 ^ 26 * ((m * v.halves - b * v.count).natAbs * stepDen q) := by ring
    _ ≤ 2 ^ 26 * ((gap q m b).natAbs * v.count
          + maxCount q * (gap q v.count v.halves).natAbs) := by gcongr
    _ = 2 ^ 26 * maxCount q * (gap q v.count v.halves).natAbs
          + 2 ^ 26 * (gap q m b).natAbs * v.count := by ring
    _ ≤ 2 ^ 26 * maxCount q * (gap q v.count v.halves).natAbs + stepDen q * v.count := by gcongr

/-- A pair of small gap is a combination of the basis vectors with small coordinates. -/
theorem exists_coordinates {q m b : ℤ} {u v : Approximant}
    (hdet : ((u.count : ℤ) * v.halves - v.count * u.halves).natAbs = 1) (hm : 0 ≤ m)
    (hmax : m ≤ maxCount q) (hgap : 2 ^ 26 * (gap q m b).natAbs ≤ stepDen q) :
    ∃ i j : ℤ, i.natAbs ≤ coordinateBound q v ∧ j.natAbs ≤ coordinateBound q u ∧
      m = i * u.count + j * v.count ∧ b = i * u.halves + j * v.halves := by
  set s : ℤ := (u.count : ℤ) * v.halves - v.count * u.halves with hs
  have hsq : s * s = 1 := by
    rcases Int.natAbs_eq s with h | h <;> rw [h, hdet] <;> norm_num
  refine ⟨s * (m * v.halves - b * v.count), -s * (m * u.halves - b * u.count),
    natAbs_coordinate_le hdet hm hmax hgap,
    natAbs_coordinate_le (by rwa [Int.natAbs_neg]) hm hmax hgap, ?_, ?_⟩
  · linear_combination -m * hsq + (m * s) * hs
  · linear_combination -b * hsq + (b * s) * hs

/-! ## Soundness of the check -/

/-- In a binade whose gaps are coarse, a small gap is zero. -/
theorem gap_eq_zero_of_hasNoSmallGap {q m b : ℤ} (hq : hasNoSmallGap q = true)
    (hgap : 2 ^ 26 * (gap q m b).natAbs ≤ stepDen q) : gap q m b = 0 := by
  simp only [hasNoSmallGap, Bool.and_eq_true, decide_eq_true_eq] at hq
  by_contra hne
  have hdvd : (Nat.gcd (stepNum q) (stepDen q) : ℤ) ∣ gap q m b :=
    dvd_sub (Dvd.dvd.mul_left (Int.natCast_dvd_natCast.2 (Nat.gcd_dvd_left _ _)) _)
      (Dvd.dvd.mul_left (Int.natCast_dvd_natCast.2 (Nat.gcd_dvd_right _ _)) _)
  have hle : Nat.gcd (stepNum q) (stepDen q) ≤ (gap q m b).natAbs :=
    Nat.le_of_dvd (Int.natAbs_pos.2 hne) (Int.natCast_dvd.1 hdvd)
  omega

theorem isSafe_iff {q m b : ℤ} :
    isSafe q m b = true ↔
      m ≤ 0 ∨ maxCount q < m ∨ stepDen q < 2 ^ 26 * (gap q m b).natAbs ∨
      (gap q m b = 0 ∧ (coarseExponent q).natAbs ≤ 11) ∨
      (m % 10 ≠ 0 ∧ gap q m b < 0 ∧
        isBelowHalves q b (readBack m.toNat (coarseExponent q)) = true) ∨
      (m % 10 ≠ 0 ∧ 0 < gap q m b ∧
        isAboveHalves q b (readBack m.toNat (coarseExponent q)) = true) := by
  simp only [isSafe, Bool.or_eq_true, Bool.and_eq_true, decide_eq_true_eq, beq_iff_eq, bne_iff_ne,
    or_assoc, and_assoc]

/-- The check of a binade covers all its pairs. -/
theorem isSafe_of_binadeIsSafe {q : ℤ} (hq : binadeIsSafe q = true) (m b : ℤ) :
    isSafe q m b = true := by
  by_cases hm : m ≤ 0
  · exact isSafe_iff.2 (.inl hm)
  by_cases hmax : maxCount q < m
  · exact isSafe_iff.2 (.inr (.inl hmax))
  by_cases hgap : stepDen q < 2 ^ 26 * (gap q m b).natAbs
  · exact isSafe_iff.2 (.inr (.inr (.inl hgap)))
  rw [not_lt] at hgap
  rw [binadeIsSafe, Bool.or_eq_true] at hq
  rcases hq with hcoarse | hbasis
  · have hzero := gap_eq_zero_of_hasNoSmallGap hcoarse hgap
    simp only [hasNoSmallGap, Bool.and_eq_true, decide_eq_true_eq] at hcoarse
    exact isSafe_iff.2 (.inr (.inr (.inr (.inl ⟨hzero, hcoarse.1⟩))))
  · simp only [Bool.and_eq_true, beq_iff_eq, List.all_eq_true, List.mem_range] at hbasis
    obtain ⟨hdet, hall⟩ := hbasis
    obtain ⟨i, j, hi, hj, rfl, rfl⟩ :=
      exists_coordinates hdet (by omega) (not_lt.1 hmax) hgap
    have h := hall (i + coordinateBound q (basis q).2).toNat (by omega)
      (j + coordinateBound q (basis q).1).toNat (by omega)
    rwa [Int.toNat_of_nonneg (by omega), Int.toNat_of_nonneg (by omega), add_sub_cancel_right,
      add_sub_cancel_right] at h

/-! ## Exact values -/

/-- The gap is the difference of the two numbers, up to a positive factor. -/
theorem gap_mul_two_zpow (q m b : ℤ) :
    (gap q m b : ℚ) * 2 ^ (q - 1)
      = (m * 10 ^ coarseExponent q - b * 2 ^ (q - 1)) * stepDen q := by
  have hten := zpow_eq_div (show (10 : ℕ) ≠ 0 by norm_num) (coarseExponent q)
  have htwo := zpow_eq_div (show (2 : ℕ) ≠ 0 by norm_num) (q - 1)
  rw [show -(q - 1) = 1 - q by ring] at htwo
  have hstep : (stepNum q : ℚ) * 2 ^ (q - 1) = 10 ^ coarseExponent q * stepDen q := by
    rw [stepNum, stepDen]
    push_cast at hten htwo ⊢
    rw [hten, htwo]
    field_simp
  unfold gap
  push_cast
  linear_combination (m : ℚ) * hstep

/-- The two scales on which a magnitude is compared with half places. -/
theorem toRat_mul_two_pow (x : Magnitude) (p : ℤ) :
    x.toRat * ((2 ^ (p - x.exponent).toNat : ℕ) : ℚ)
      = x.significand * ((2 ^ (x.exponent - p).toNat : ℕ) : ℚ) * 2 ^ p := by
  rw [Magnitude.toRat, mul_assoc, mul_assoc]
  push_cast
  rw [← zpow_natCast, ← zpow_natCast, ← zpow_add₀ two_ne_zero, ← zpow_add₀ two_ne_zero]
  congr 2
  omega

theorem isBelowHalves_iff {q b : ℤ} {x : Magnitude} :
    isBelowHalves q b x = true ↔ x.toRat < b * 2 ^ (q - 1) := by
  have hp := two_zpow_pos (q - 1)
  have hscale : (0 : ℚ) < ((2 ^ (q - 1 - x.exponent).toNat : ℕ) : ℚ) := by positivity
  rw [isBelowHalves, decide_eq_true_eq, ← mul_lt_mul_iff_of_pos_right hscale, toRat_mul_two_pow,
    mul_right_comm (b : ℚ), mul_lt_mul_iff_of_pos_right hp]
  exact_mod_cast Iff.rfl

theorem isAboveHalves_iff {q b : ℤ} {x : Magnitude} :
    isAboveHalves q b x = true ↔ b * 2 ^ (q - 1) < x.toRat := by
  have hp := two_zpow_pos (q - 1)
  have hscale : (0 : ℚ) < ((2 ^ (q - 1 - x.exponent).toNat : ℕ) : ℚ) := by positivity
  rw [isAboveHalves, decide_eq_true_eq, ← mul_lt_mul_iff_of_pos_right hscale, toRat_mul_two_pow,
    mul_right_comm (b : ℚ), mul_lt_mul_iff_of_pos_right hp]
  exact_mod_cast Iff.rfl

/-- The count of steps below the end of the binade. -/
theorem count_le_maxCount {q : ℤ} {m : ℕ}
    (hlt : (m : ℚ) * 10 ^ coarseExponent q < 2 ^ (q + 24)) : m ≤ maxCount q := by
  have hp := two_zpow_pos (q - 1)
  have hden : (0 : ℚ) < stepDen q := by exact_mod_cast stepDen_pos q
  have hgap := gap_mul_two_zpow q m (2 ^ 25 : ℕ)
  have hend : (2 : ℚ) ^ (q + 24) = ((2 ^ 25 : ℕ) : ℤ) * 2 ^ (q - 1) := by
    rw [show q + 24 = 25 + (q - 1) by ring, zpow_add₀ two_ne_zero]
    norm_num
  have hneg : (gap q m (2 ^ 25 : ℕ) : ℚ) * 2 ^ (q - 1) < 0 := by
    rw [hgap, ← hend]
    exact mul_neg_of_neg_of_pos (by push_cast; linarith) hden
  have hgapneg : gap q m (2 ^ 25 : ℕ) < 0 := by
    exact_mod_cast neg_of_mul_neg_left hneg hp.le
  rw [gap, sub_neg] at hgapneg
  rw [maxCount, Nat.le_div_iff_mul_le (stepNum_pos q)]
  exact_mod_cast hgapneg.le

/-- The gap of a decimal close to a half place. -/
theorem natAbs_gap_le_of_near {q m b : ℤ}
    (hnear : |(m : ℚ) * 10 ^ coarseExponent q - b * 2 ^ (q - 1)| ≤ 2 ^ (q - 27)) :
    2 ^ 26 * (gap q m b).natAbs ≤ stepDen q := by
  have hp := two_zpow_pos (q - 1)
  have hden : (0 : ℚ) < stepDen q := by exact_mod_cast stepDen_pos q
  have hplace : (2 : ℚ) ^ 26 * 2 ^ (q - 27) = 2 ^ (q - 1) := by
    rw [← zpow_natCast, ← zpow_add₀ two_ne_zero]
    congr 1
    push_cast
    ring
  have habs : ((gap q m b).natAbs : ℚ) * 2 ^ (q - 1) ≤ 2 ^ (q - 27) * stepDen q := by
    rw [Nat.cast_natAbs, Int.cast_abs, ← abs_of_pos hp, ← abs_mul, gap_mul_two_zpow, abs_mul,
      abs_of_pos hden]
    gcongr
  have hscaled : (2 ^ 26 * (gap q m b).natAbs : ℚ) * 2 ^ (q - 1) ≤ stepDen q * 2 ^ (q - 1) := by
    calc (2 ^ 26 * (gap q m b).natAbs : ℚ) * 2 ^ (q - 1)
        = 2 ^ 26 * ((gap q m b).natAbs * 2 ^ (q - 1)) := by ring
      _ ≤ 2 ^ 26 * (2 ^ (q - 27) * stepDen q) := by gcongr
      _ = stepDen q * 2 ^ (q - 1) := by rw [← mul_assoc, hplace, mul_comm]
  exact_mod_cast le_of_mul_le_mul_right hscaled hp

/-- A decimal of the coarse grid that is close to a half place is exactly there, or is read back on
the side where it is. -/
theorem eq_or_readBack_of_near_half {q : ℤ} (hlow : -149 ≤ q) (hhigh : q ≤ 104) {m b : ℕ}
    (hm : 0 < m) (hlt : (m : ℚ) * 10 ^ coarseExponent q < 2 ^ (q + 24))
    (hnear : |(m : ℚ) * 10 ^ coarseExponent q - b * 2 ^ (q - 1)| ≤ 2 ^ (q - 27)) :
    ((m : ℚ) * 10 ^ coarseExponent q = b * 2 ^ (q - 1) ∧ (coarseExponent q).natAbs ≤ 11) ∨
      m % 10 ≠ 0 ∧
        ((m : ℚ) * 10 ^ coarseExponent q < b * 2 ^ (q - 1) ∧
            (readBack m (coarseExponent q)).toRat < b * 2 ^ (q - 1) ∨
          b * 2 ^ (q - 1) < (m : ℚ) * 10 ^ coarseExponent q ∧
            b * 2 ^ (q - 1) < (readBack m (coarseExponent q)).toRat) := by
  have hp := two_zpow_pos (q - 1)
  have hden : (0 : ℚ) < stepDen q := by exact_mod_cast stepDen_pos q
  have hgap := gap_mul_two_zpow q m b
  push_cast at hgap
  have hmax : ¬ (maxCount q : ℤ) < m := by
    have hle := count_le_maxCount hlt
    omega
  have hsmall : ¬ stepDen q < 2 ^ 26 * (gap q m b).natAbs :=
    not_lt.2 (natAbs_gap_le_of_near (by exact_mod_cast hnear))
  rcases isSafe_iff.1 (isSafe_of_binadeIsSafe (binadeIsSafe_of_mem hlow hhigh) m b) with
    h | h | h | ⟨hzero, hexact⟩ | ⟨hlast, hneg, hside⟩ | ⟨hlast, hpos, hside⟩
  · omega
  · exact absurd h hmax
  · exact absurd h hsmall
  · left
    refine ⟨?_, hexact⟩
    rw [hzero, Int.cast_zero, zero_mul] at hgap
    rcases mul_eq_zero.1 hgap.symm with h | h
    · linarith
    · exact absurd h hden.ne'
  · right
    refine ⟨by omega, .inl ⟨?_, ?_⟩⟩
    · have : (gap q m b : ℚ) * 2 ^ (q - 1) < 0 := mul_neg_of_neg_of_pos (by exact_mod_cast hneg) hp
      rw [hgap] at this
      linarith [neg_of_mul_neg_left this hden.le]
    · rw [isBelowHalves_iff] at hside
      exact_mod_cast hside
  · right
    refine ⟨by omega, .inr ⟨?_, ?_⟩⟩
    · have : 0 < (gap q m b : ℚ) * 2 ^ (q - 1) := mul_pos (by exact_mod_cast hpos) hp
      rw [hgap] at this
      linarith [pos_of_mul_pos_left this hden.le]
    · rw [isAboveHalves_iff] at hside
      exact_mod_cast hside

end ModelPreview
