import Mathlib
import ModelPreview.Proofs.Number.NearMiss

/-!
# Reading back the shortest decimal

A 32-bit magnitude is written as its shortest decimal and read through the 64-bit format.  The
64-bit value is so close to the decimal that it stays in the rounding interval of the magnitude,
except perhaps for decimals next to the end of the interval.  On fine grids the decimal keeps away
from the ends, on coarse grids the near misses are known, and at the ends themselves powers of ten
and result are exact.

Main results:

- `abs_readBack_sub_le`: the error of reading a decimal.
- `toRat_readBack_of_exact`: decimals that are read exactly.
- `narrow_readBack_shortest`: the shortest decimal of a magnitude is read as that magnitude.
-/

namespace ModelPreview

open Binary Json

-- Powers are those of the natural numbers, which the checks below evaluate fast.
attribute [local instance (high)] instPowNat

/-! ## Products and quotients of magnitudes -/

namespace Binary.Magnitude

theorem num_mul_div_den_mul (x y : Magnitude) :
    ((x.num * y.num : ℕ) : ℚ) / ((x.den * y.den : ℕ) : ℚ) = x.toRat * y.toRat := by
  rw [← num_div_den, ← num_div_den]
  push_cast
  rw [div_mul_div_comm]

theorem num_mul_den_div (x y : Magnitude) :
    ((x.num * y.den : ℕ) : ℚ) / ((x.den * y.num : ℕ) : ℚ) = x.toRat / y.toRat := by
  rw [← num_div_den, ← num_div_den]
  push_cast
  rw [div_div_div_eq]

theorem num_pos_of_toRat_pos {x : Magnitude} (hx : 0 < x.toRat) : 0 < x.num := by
  rcases Nat.eq_zero_or_pos x.num with hzero | hpos
  · rw [← num_div_den, hzero] at hx
    simp at hx
  · exact hpos

end Binary.Magnitude

/-! ## The 64-bit format -/

theorem double_precision_pos : 0 < double.precision := by decide

/-- The relative error of a rounding to the 64-bit format, above its subnormal range. -/
theorem abs_double_round_sub_le {n d : ℕ} (hn : 0 < n) (hd : 0 < d)
    (hnormal : (2 : ℚ) ^ (-1022 : ℤ) ≤ n / d) :
    |(double.round n d).toRat - n / d| ≤ 2 ^ (-53 : ℤ) * (n / d) :=
  Format.abs_toRat_round_sub_le double_precision_pos hn hd hnormal

/-- Natural numbers below `2 ^ 53` are values of the 64-bit format. -/
theorem toRat_double_round_nat {n : ℕ} (hn : 0 < n) (hlt : n < 2 ^ 53) :
    (double.round n 1).toRat = n := by
  have h := Format.toRat_round_of_exact double_precision_pos hn one_pos (s := n) (t := 0) hlt
    (by decide) (by simp)
  rw [h]
  simp

/-- The error of a power of ten. -/
theorem abs_powerOfTen_sub_le (k : ℕ) :
    |(powerOfTen k).toRat - 10 ^ k| ≤ 2 ^ (-53 : ℤ) * 10 ^ k := by
  have hone : (1 : ℚ) ≤ 10 ^ k := one_le_pow₀ (by norm_num)
  have h := abs_double_round_sub_le (n := Nat.pow 10 k) (d := 1) (Nat.pow_pos (by norm_num)) one_pos
    (by
      rw [Nat.pow_eq, Nat.cast_one, div_one, Nat.cast_pow]
      exact le_trans (zpow_le_one_of_nonpos₀ (by norm_num) (by norm_num)) hone)
  rw [Nat.pow_eq, Nat.cast_one, div_one, Nat.cast_pow] at h
  exact h

/-- The powers of ten that the 64-bit format can hold. -/
theorem toRat_powerOfTen {k : ℕ} (hk : k ≤ 22) : (powerOfTen k).toRat = 10 ^ k := by
  have hfive : 5 ^ k < 2 ^ 53 :=
    lt_of_le_of_lt (Nat.pow_le_pow_right (by norm_num) hk) (by norm_num)
  have h := Format.toRat_round_of_exact double_precision_pos (n := Nat.pow 10 k) (d := 1)
    (Nat.pow_pos (by norm_num)) one_pos (s := 5 ^ k) (t := k) hfive
    (le_trans (by decide) (Int.natCast_nonneg k)) (by
      rw [Nat.pow_eq, Nat.cast_one, div_one, zpow_natCast]
      push_cast
      rw [← mul_pow]
      norm_num)
  rw [Nat.pow_eq, Nat.cast_one, div_one, Nat.cast_pow] at h
  exact h

/-- A rounded power of ten is a positive number of about the right size. -/
theorem powerOfTen_bounds (k : ℕ) :
    (10 : ℚ) ^ k / 2 ≤ (powerOfTen k).toRat ∧ (powerOfTen k).toRat ≤ 2 * 10 ^ k := by
  have hpos : (0 : ℚ) < 10 ^ k := by positivity
  obtain ⟨hlow, hhigh⟩ := abs_le.1 (abs_powerOfTen_sub_le k)
  have hsmall : (2 : ℚ) ^ (-53 : ℤ) * 10 ^ k ≤ 10 ^ k / 2 := by
    rw [div_eq_inv_mul]
    gcongr
    norm_num
  generalize (2 : ℚ) ^ (-53 : ℤ) * 10 ^ k = u at *
  constructor <;> linarith

/-! ## The error of reading -/

/-- Reading a few digits with a negative power of ten. -/
theorem readBack_neg {n k : ℕ} (hk : 0 < k) :
    readBack n (-k) = double.div (double.round n 1) (powerOfTen k) := by
  rw [readBack, if_pos (by omega)]
  simp

theorem readBack_natCast (n k : ℕ) :
    readBack n k = double.mul (double.round n 1) (powerOfTen k) := by
  rw [readBack, if_neg (by omega)]
  simp

/-- A rounding near a value gives a value near it: the relative error `u` of a factor, and the
relative error `u` of the rounding of a result at most twice the exact value, add up to `4 * u`. -/
theorem abs_sub_le_of_errors {y z v u : ℚ} (hu : 0 ≤ u) (hround : |y - z| ≤ u * z)
    (hfactor : |z - v| ≤ 2 * u * v) (hz : z ≤ 2 * v) : |y - v| ≤ 4 * u * v := by
  have hstep : u * z ≤ u * (2 * v) := mul_le_mul_of_nonneg_left hz hu
  calc |y - v| ≤ |y - z| + |z - v| := abs_sub_le y z v
    _ ≤ u * z + 2 * u * v := add_le_add hround hfactor
    _ ≤ 4 * u * v := by linarith

theorem num_double_round_nat_pos {n : ℕ} (hn : 0 < n) (hlt : n < 2 ^ 53) :
    0 < (double.round n 1).num := by
  apply Magnitude.num_pos_of_toRat_pos
  rw [toRat_double_round_nat hn hlt]
  exact_mod_cast hn

theorem powerOfTen_pos (k : ℕ) : 0 < (powerOfTen k).toRat :=
  lt_of_lt_of_le (by positivity) (powerOfTen_bounds k).1

/-- Digits divided by a power of ten. -/
theorem abs_readBack_neg_sub_le {n k : ℕ} (hn : 0 < n) (hlt : n < 2 ^ 53) (hk : 0 < k)
    (hle : k ≤ 200) :
    |(readBack n (-k)).toRat - n / 10 ^ k| ≤ 4 * 2 ^ (-53 : ℤ) * (n / 10 ^ k) := by
  have hnq : (1 : ℚ) ≤ n := by exact_mod_cast hn
  have hten : (0 : ℚ) < 10 ^ k := by positivity
  have hp := powerOfTen_pos k
  obtain ⟨hlow, hhigh⟩ := powerOfTen_bounds k
  have hnormal : (2 : ℚ) ^ (-1022 : ℤ) ≤ n / (powerOfTen k).toRat := by
    calc (2 : ℚ) ^ (-1022 : ℤ) ≤ 2 ^ (-(4 * k + 1 : ℕ) : ℤ) :=
          zpow_le_zpow_right₀ one_le_two (by omega)
      _ = 1 / (2 * 16 ^ k) := by
        rw [zpow_neg, zpow_natCast, pow_succ, pow_mul, one_div, mul_comm]
        norm_num
      _ ≤ 1 / (2 * 10 ^ k) := by
        gcongr
        norm_num
      _ ≤ n / (powerOfTen k).toRat := by gcongr
  have hround := abs_double_round_sub_le
    (Nat.mul_pos (num_double_round_nat_pos hn hlt) (powerOfTen k).den_pos)
    (Nat.mul_pos (double.round n 1).den_pos (Magnitude.num_pos_of_toRat_pos hp))
    (by rwa [Magnitude.num_mul_den_div, toRat_double_round_nat hn hlt])
  rw [Magnitude.num_mul_den_div, toRat_double_round_nat hn hlt] at hround
  rw [readBack_neg hk, Format.div]
  refine abs_sub_le_of_errors (by positivity) hround ?_ ?_
  · have hdiff : (n : ℚ) / (powerOfTen k).toRat - n / 10 ^ k
        = n / ((powerOfTen k).toRat * 10 ^ k) * (10 ^ k - (powerOfTen k).toRat) := by
      field_simp
    rw [hdiff, abs_mul, abs_of_pos (by positivity), abs_sub_comm]
    calc (n : ℚ) / ((powerOfTen k).toRat * 10 ^ k) * |(powerOfTen k).toRat - 10 ^ k|
        ≤ n / (10 ^ k / 2 * 10 ^ k) * (2 ^ (-53 : ℤ) * 10 ^ k) := by
          gcongr
          exact abs_powerOfTen_sub_le k
      _ = 2 * 2 ^ (-53 : ℤ) * (n / 10 ^ k) := by field_simp
  · calc (n : ℚ) / (powerOfTen k).toRat ≤ n / (10 ^ k / 2) := by gcongr
      _ = 2 * (n / 10 ^ k) := by field_simp

/-- Digits multiplied by a power of ten. -/
theorem abs_readBack_natCast_sub_le {n : ℕ} (k : ℕ) (hn : 0 < n) (hlt : n < 2 ^ 53) :
    |(readBack n k).toRat - n * 10 ^ k| ≤ 4 * 2 ^ (-53 : ℤ) * (n * 10 ^ k) := by
  have hnq : (1 : ℚ) ≤ n := by exact_mod_cast hn
  have hten : (1 : ℚ) ≤ 10 ^ k := one_le_pow₀ (by norm_num)
  obtain ⟨hlow, hhigh⟩ := powerOfTen_bounds k
  have hnormal : (2 : ℚ) ^ (-1022 : ℤ) ≤ n * (powerOfTen k).toRat := by
    calc (2 : ℚ) ^ (-1022 : ℤ) ≤ 2 ^ (-1 : ℤ) := zpow_le_zpow_right₀ one_le_two (by norm_num)
      _ = 1 * (1 / 2) := by norm_num
      _ ≤ n * (powerOfTen k).toRat := by
        gcongr
        linarith
  have hround := abs_double_round_sub_le
    (Nat.mul_pos (num_double_round_nat_pos hn hlt)
      (Magnitude.num_pos_of_toRat_pos (powerOfTen_pos k)))
    (Nat.mul_pos (double.round n 1).den_pos (powerOfTen k).den_pos)
    (by rwa [Magnitude.num_mul_div_den_mul, toRat_double_round_nat hn hlt])
  rw [Magnitude.num_mul_div_den_mul, toRat_double_round_nat hn hlt] at hround
  rw [readBack_natCast, Format.mul]
  refine abs_sub_le_of_errors (by positivity) hround ?_ ?_
  · rw [← mul_sub, abs_mul, abs_of_nonneg (by linarith)]
    calc (n : ℚ) * |(powerOfTen k).toRat - 10 ^ k| ≤ n * (2 * (2 ^ (-53 : ℤ) * 10 ^ k)) := by
          gcongr
          refine (abs_powerOfTen_sub_le k).trans (le_mul_of_one_le_left (by positivity) ?_)
          norm_num
      _ = 2 * 2 ^ (-53 : ℤ) * (n * 10 ^ k) := by ring
  · calc (n : ℚ) * (powerOfTen k).toRat ≤ n * (2 * 10 ^ k) := by gcongr
      _ = 2 * (n * 10 ^ k) := by ring

/-- What is read is close to the decimal. -/
theorem abs_readBack_sub_le {n : ℕ} {e : ℤ} (hn : 0 < n) (hlt : n < 2 ^ 53) (he : -200 ≤ e) :
    |(readBack n e).toRat - n * 10 ^ e| ≤ 2 ^ (-51 : ℤ) * (n * 10 ^ e) := by
  rw [show (2 : ℚ) ^ (-51 : ℤ) = 4 * 2 ^ (-53 : ℤ) by norm_num]
  rcases lt_or_ge e 0 with hneg | hnonneg
  · obtain ⟨k, hk, rfl⟩ : ∃ k : ℕ, 0 < k ∧ e = -(k : ℤ) := ⟨(-e).toNat, by omega, by omega⟩
    rw [zpow_neg, zpow_natCast, ← div_eq_mul_inv]
    exact abs_readBack_neg_sub_le hn hlt hk (by omega)
  · obtain ⟨k, rfl⟩ := Int.eq_ofNat_of_zero_le hnonneg
    rw [zpow_natCast]
    exact abs_readBack_natCast_sub_le k hn hlt

/-- A decimal that the 64-bit format can hold is read exactly if its power of ten is exact. -/
theorem toRat_readBack_of_exact {n : ℕ} {e : ℤ} (hn : 0 < n) (hlt : n < 2 ^ 53)
    (he : e.natAbs ≤ 22) {s : ℕ} {t : ℤ} (hs : s < 2 ^ 53) (ht : -1074 ≤ t)
    (heq : (n : ℚ) * 10 ^ e = s * 2 ^ t) : (readBack n e).toRat = n * 10 ^ e := by
  have hxnum := num_double_round_nat_pos hn hlt
  rcases lt_or_ge e 0 with hneg | hnonneg
  · obtain ⟨k, hk, rfl⟩ : ∃ k : ℕ, 0 < k ∧ e = -(k : ℤ) := ⟨(-e).toNat, by omega, by omega⟩
    have hquot := Magnitude.num_mul_den_div (double.round n 1) (powerOfTen k)
    rw [toRat_double_round_nat hn hlt, toRat_powerOfTen (by omega)] at hquot
    rw [zpow_neg, zpow_natCast, ← div_eq_mul_inv] at heq ⊢
    rw [readBack_neg hk, Format.div, ← hquot]
    exact Format.toRat_round_of_exact double_precision_pos
      (Nat.mul_pos hxnum (powerOfTen k).den_pos)
      (Nat.mul_pos (double.round n 1).den_pos (Magnitude.num_pos_of_toRat_pos (powerOfTen_pos k)))
      hs ht (hquot.trans heq)
  · obtain ⟨k, rfl⟩ := Int.eq_ofNat_of_zero_le hnonneg
    have hprod := Magnitude.num_mul_div_den_mul (double.round n 1) (powerOfTen k)
    rw [toRat_double_round_nat hn hlt, toRat_powerOfTen (by omega)] at hprod
    rw [zpow_natCast] at heq ⊢
    rw [readBack_natCast, Format.mul, ← hprod]
    exact Format.toRat_round_of_exact double_precision_pos
      (Nat.mul_pos hxnum (Magnitude.num_pos_of_toRat_pos (powerOfTen_pos k)))
      (Nat.mul_pos (double.round n 1).den_pos (powerOfTen k).den_pos)
      hs ht (hprod.trans heq)

/-! ## Coarse and fine grids -/

/-- Grids below the coarse one have steps of less than a place. -/
theorem ten_zpow_le_of_lt_coarseExponent {q e : ℤ} (hlow : -149 ≤ q) (hhigh : q ≤ 104)
    (he : e < coarseExponent q) : 100 * (10 : ℚ) ^ e ≤ 99 * 2 ^ q := by
  have hcheck : ∀ k < 254,
      10 * 10 ^ (coarseExponent ((k : ℕ) - 149)).toNat * 2 ^ (-((k : ℕ) - 149 : ℤ)).toNat
        ≤ 99 * 2 ^ ((k : ℕ) - 149 : ℤ).toNat * 10 ^ (-coarseExponent ((k : ℕ) - 149)).toNat := by
    decide +kernel
  have hq := hcheck (q + 149).toNat (by omega)
  rw [Int.toNat_of_nonneg (by omega), add_sub_cancel_right] at hq
  have hstep : 10 * (10 : ℚ) ^ coarseExponent q ≤ 99 * 2 ^ q := by
    have hten := zpow_eq_div (show (10 : ℕ) ≠ 0 by norm_num) (coarseExponent q)
    have htwo := zpow_eq_div (show (2 : ℕ) ≠ 0 by norm_num) q
    push_cast at hten htwo
    rw [hten, htwo, mul_div_assoc', mul_div_assoc', div_le_div_iff₀ (by positivity) (by positivity)]
    exact_mod_cast hq
  calc 100 * (10 : ℚ) ^ e ≤ 100 * 10 ^ (coarseExponent q - 1) := by
        gcongr
        · norm_num
        · omega
    _ = 10 * 10 ^ coarseExponent q := by
        rw [zpow_sub_one₀ (by norm_num)]
        ring
    _ ≤ 99 * 2 ^ q := hstep

/-- Where the coarse grid has a small exponent, so have the decimals on it. -/
theorem natAbs_exponent_le {q : ℤ} {w : Decimal} (hw : w.Trimmed)
    (hexp : coarseExponent q ≤ w.exponent) (hlt : w.toRat < 2 ^ (q + 24))
    (hexact : (coarseExponent q).natAbs ≤ 11) : w.exponent.natAbs ≤ 22 := by
  have hq : q ≤ 36 := by
    unfold coarseExponent at hexact
    omega
  have hdigits : (1 : ℚ) ≤ w.digits := by exact_mod_cast hw.digits_pos
  have hpow : (10 : ℚ) ^ w.exponent < 10 ^ (19 : ℤ) := by
    calc (10 : ℚ) ^ w.exponent ≤ w.digits * 10 ^ w.exponent :=
          le_mul_of_one_le_left (ten_zpow_pos _).le hdigits
      _ < 2 ^ (q + 24) := hlt
      _ ≤ 2 ^ (60 : ℤ) := zpow_le_zpow_right₀ one_le_two (by omega)
      _ < 10 ^ (19 : ℤ) := by norm_num
  have := (zpow_lt_zpow_iff_right₀ (by norm_num)).1 hpow
  omega

/-- The half places of a binade are few enough for the 64-bit format. -/
theorem halves_lt {q : ℤ} {b : ℕ} (hlt : (b : ℚ) * 2 ^ (q - 1) < 2 ^ (q + 24)) : b < 2 ^ 53 := by
  rw [show q + 24 = 25 + (q - 1) by ring, zpow_add₀ two_ne_zero] at hlt
  have h : (b : ℚ) < 2 ^ (25 : ℤ) := lt_of_mul_lt_mul_right hlt (two_zpow_pos _).le
  have : b < 2 ^ 25 := by exact_mod_cast h
  omega

/-- A decimal of the coarse grid is read on its own side of every half place. -/
theorem readBack_keeps_side {q : ℤ} (hlow : -149 ≤ q) (hhigh : q ≤ 104) {w : Decimal}
    (hw : w.Trimmed) (hdigits : w.digits < 2 ^ 53) (hexp : coarseExponent q ≤ w.exponent)
    (hlt : w.toRat < 2 ^ (q + 24)) (b : ℕ) :
    (w.toRat < b * 2 ^ (q - 1) → (readBack w.digits w.exponent).toRat < b * 2 ^ (q - 1)) ∧
      (b * 2 ^ (q - 1) < w.toRat → b * 2 ^ (q - 1) < (readBack w.digits w.exponent).toRat) ∧
      (w.toRat = b * 2 ^ (q - 1) → (readBack w.digits w.exponent).toRat = w.toRat) := by
  have hp := two_zpow_pos (q - 1)
  have hcoarse : -45 ≤ coarseExponent q := by
    unfold coarseExponent
    omega
  have herr : |(readBack w.digits w.exponent).toRat - w.toRat| ≤ 2 ^ (q - 27) := by
    refine (abs_readBack_sub_le hw.digits_pos hdigits (by omega)).trans ?_
    calc (2 : ℚ) ^ (-51 : ℤ) * w.toRat ≤ 2 ^ (-51 : ℤ) * 2 ^ (q + 24) := by gcongr
      _ = 2 ^ (q - 27) := by
        rw [← zpow_add₀ two_ne_zero]
        congr 1
        ring
  rw [abs_le] at herr
  by_cases hfar : 2 ^ (q - 27) < |w.toRat - b * 2 ^ (q - 1)|
  · rw [lt_abs] at hfar
    refine ⟨fun h => ?_, fun h => ?_, fun h => ?_⟩
    · rcases hfar with hfar | hfar <;> linarith [two_zpow_pos (q - 27)]
    · rcases hfar with hfar | hfar <;> linarith [two_zpow_pos (q - 27)]
    · rcases hfar with hfar | hfar <;> linarith [two_zpow_pos (q - 27)]
  -- The decimal as a multiple of the step of the coarse grid.
  obtain ⟨k, hk⟩ : ∃ k : ℕ, w.exponent = coarseExponent q + k :=
    ⟨(w.exponent - coarseExponent q).toNat, by omega⟩
  have hval : w.toRat = ((w.digits * 10 ^ k : ℕ) : ℚ) * 10 ^ coarseExponent q := by
    rw [Decimal.toRat, hk, zpow_add₀ (by norm_num), zpow_natCast]
    push_cast
    ring
  have hm : 0 < w.digits * 10 ^ k := Nat.mul_pos hw.digits_pos (by positivity)
  rcases eq_or_readBack_of_near_half hlow hhigh hm (by rwa [← hval])
    (by rw [← hval]; exact not_lt.1 hfar) with ⟨heq, hexact⟩ | ⟨hlast, hside⟩
  · have hmid : w.toRat = b * 2 ^ (q - 1) := hval.trans heq
    have hsame := toRat_readBack_of_exact hw.digits_pos hdigits
      (natAbs_exponent_le hw hexp hlt hexact) (halves_lt (hmid ▸ hlt)) (by omega) hmid
    rw [← Decimal.toRat] at hsame
    exact ⟨fun h => absurd hmid h.ne, fun h => absurd hmid h.ne', fun _ => hsame⟩
  · -- Without trailing zeros this is the decimal itself.
    have hself : (⟨w.digits * 10 ^ k, coarseExponent q⟩ : Decimal) = w :=
      Decimal.Trimmed.ext ⟨hm, hlast⟩ hw (by rw [Decimal.toRat_mk, ← hval])
    have hdig : w.digits * 10 ^ k = w.digits := congrArg Decimal.digits hself
    have hexp' : coarseExponent q = w.exponent := congrArg Decimal.exponent hself
    rw [← hval, hdig, hexp'] at hside
    rcases hside with ⟨h1, h2⟩ | ⟨h1, h2⟩
    · exact ⟨fun _ => h2, fun h => by linarith, fun h => by linarith⟩
    · exact ⟨fun h => by linarith, fun _ => h2, fun h => by linarith⟩

/-! ## Reading the nearest decimal -/

/-- The nearest decimal of a magnitude lies within its binade. -/
theorem Binary.Magnitude.IsNearest.toRat_lt {x : Magnitude} {w : Decimal} (hw : x.IsNearest w)
    (hlt : x.significand < 2 ^ 24) : w.toRat < 2 ^ (x.exponent + 24) := by
  have hupper := (abs_le.1 hw.rounds.1).2
  have hm : (x.significand : ℚ) + 1 ≤ 2 ^ 24 := by exact_mod_cast hlt
  rw [add_comm, zpow_add₀ two_ne_zero, ← div_lt_iff₀ (two_zpow_pos _)]
  calc w.toRat / 2 ^ x.exponent ≤ x.significand + 1 / 2 := by linarith
    _ < 2 ^ 24 := by linarith

theorem abs_div_sub_le_half_iff {z p m : ℚ} (hp : 0 < p) :
    |z / p - m| ≤ 1 / 2 ↔ (2 * m - 1) * (p / 2) ≤ z ∧ z ≤ (2 * m + 1) * (p / 2) := by
  rw [abs_le, le_sub_iff_add_le, le_div_iff₀ hp, sub_le_iff_le_add, div_le_iff₀ hp]
  constructor
  · rintro ⟨hlow, hhigh⟩
    constructor <;> linarith
  · rintro ⟨hlow, hhigh⟩
    constructor <;> linarith

theorem abs_div_sub_eq_half_iff {z p m : ℚ} (hp : 0 < p) :
    |z / p - m| = 1 / 2 ↔ z = (2 * m - 1) * (p / 2) ∨ z = (2 * m + 1) * (p / 2) := by
  rw [abs_eq (by norm_num), sub_eq_iff_eq_add, sub_eq_iff_eq_add, div_eq_iff hp.ne',
    div_eq_iff hp.ne', or_comm]
  constructor
  · rintro (h | h)
    · exact .inl (by linarith)
    · exact .inr (by linarith)
  · rintro (h | h)
    · exact .inl (by linarith)
    · exact .inr (by linarith)

/-- A value that lies like `v` to every half place is rounded like `v`. -/
theorem RoundsTo.of_sides {y v p : ℚ} {m : ℕ} (hp : 0 < p) (hm : 0 < m) (hv : RoundsTo (v / p) m)
    (hside : ∀ b : ℕ, (v < b * (p / 2) → y < b * (p / 2)) ∧ (b * (p / 2) < v → b * (p / 2) < y) ∧
      (v = b * (p / 2) → y = v)) : RoundsTo (y / p) m := by
  obtain ⟨-, hlow, hlow'⟩ := hside (2 * m - 1)
  obtain ⟨hhigh, -, hhigh'⟩ := hside (2 * m + 1)
  have hcast : ((2 * m - 1 : ℕ) : ℚ) = 2 * m - 1 := by
    rw [Nat.cast_sub (by omega)]
    push_cast
    rfl
  rw [hcast] at hlow hlow'
  push_cast at hhigh hhigh'
  obtain ⟨hnear, htie⟩ := hv
  rw [abs_div_sub_le_half_iff hp] at hnear
  rw [abs_div_sub_eq_half_iff hp] at htie
  rw [RoundsTo, abs_div_sub_le_half_iff hp, abs_div_sub_eq_half_iff hp]
  -- At either end `y` is `v`, and between the ends both are.
  rcases eq_or_lt_of_le hnear.1 with hvlow | hvlow
  · rw [hlow' hvlow.symm]
    exact ⟨hnear, htie⟩
  rcases eq_or_lt_of_le hnear.2 with hvhigh | hvhigh
  · rw [hhigh' hvhigh]
    exact ⟨hnear, htie⟩
  · have hylow := hlow hvlow
    have hyhigh := hhigh hvhigh
    exact ⟨⟨hylow.le, hyhigh.le⟩, fun h => h.elim (fun h => absurd h hylow.ne')
      (fun h => absurd h hyhigh.ne)⟩

/-- The nearest decimal of a magnitude is read as a value that rounds to the magnitude. -/
theorem roundsTo_readBack {x : Magnitude} {w : Decimal} (hx : single.Canonical x)
    (hpos : 0 < x.significand) (hhigh : x.exponent ≤ 104) (hw : x.IsNearest w)
    (hexp : -200 ≤ w.exponent) :
    RoundsTo ((readBack w.digits w.exponent).toRat / 2 ^ x.exponent) x.significand := by
  have hlow : -149 ≤ x.exponent := hx.leastExponent_le
  have hp := two_zpow_pos x.exponent
  have hdigits : w.digits < 2 ^ 53 := lt_of_le_of_lt hw.digits_le (by norm_num)
  have hlt := hw.toRat_lt hx.significand_lt
  obtain ⟨e, he, hgrid⟩ := hw.onGrid
  rcases lt_or_ge e (coarseExponent x.exponent) with hfine | hcoarse
  · apply RoundsTo.of_lt
    have hstep := ten_zpow_le_of_lt_coarseExponent hlow hhigh hfine
    have herr : |(readBack w.digits w.exponent).toRat - w.toRat| ≤ 2 ^ (-27 : ℤ) * 2 ^ x.exponent := by
      refine (abs_readBack_sub_le hw.trimmed.digits_pos hdigits hexp).trans ?_
      calc (2 : ℚ) ^ (-51 : ℤ) * w.toRat ≤ 2 ^ (-51 : ℤ) * 2 ^ (x.exponent + 24) := by gcongr
        _ = 2 ^ (-27 : ℤ) * 2 ^ x.exponent := by
          rw [← zpow_add₀ two_ne_zero, ← zpow_add₀ two_ne_zero]
          congr 1
          ring
    have hsum : |(readBack w.digits w.exponent).toRat - x.toRat| < 2 ^ x.exponent / 2 := by
      calc |(readBack w.digits w.exponent).toRat - x.toRat|
          ≤ |(readBack w.digits w.exponent).toRat - w.toRat| + |w.toRat - x.toRat| :=
            abs_sub_le _ _ _
        _ ≤ 2 ^ (-27 : ℤ) * 2 ^ x.exponent + 10 ^ e / 2 := add_le_add herr hgrid
        _ < 2 ^ x.exponent / 2 := by
          have : (2 : ℚ) ^ (-27 : ℤ) < 1 / 1000 := by norm_num
          nlinarith
    rw [show x.toRat = x.significand * 2 ^ x.exponent from rfl] at hsum
    have hscale : (readBack w.digits w.exponent).toRat / 2 ^ x.exponent - x.significand
        = ((readBack w.digits w.exponent).toRat - x.significand * 2 ^ x.exponent)
          / 2 ^ x.exponent := by field_simp
    rw [hscale, abs_div, abs_of_pos hp, div_lt_iff₀ hp]
    linarith
  · refine RoundsTo.of_sides hp hpos hw.rounds fun b => ?_
    have hhalf : (2 : ℚ) ^ x.exponent / 2 = 2 ^ (x.exponent - 1) := (zpow_sub_one₀ two_ne_zero _).symm
    rw [hhalf]
    exact readBack_keeps_side hlow hhigh hw.trimmed hdigits (hcoarse.trans he) hlt b

/-! ## Written decimals -/

/-- The power of ten of the first digit of a decimal. -/
def Decimal.leadingExponent (w : Decimal) : ℤ := w.exponent + digitCount w.digits - 1

/-- The digits and exponent that the written form of a decimal is read as.  A whole number that is
written out carries all its zeros and one digit after the point. -/
def Decimal.asRead (w : Decimal) : Decimal :=
  if 0 ≤ w.exponent ∧ w.leadingExponent ≤ 12
  then ⟨w.digits * 10 ^ (w.exponent + 1).toNat, -1⟩ else w

/-- The 64-bit magnitude that the written form of a decimal is read as. -/
def Decimal.reading (w : Decimal) : Magnitude := readBack w.asRead.digits w.asRead.exponent

theorem Decimal.asRead_of_whole {w : Decimal} (h : 0 ≤ w.exponent ∧ w.leadingExponent ≤ 12) :
    w.asRead = ⟨w.digits * 10 ^ (w.exponent + 1).toNat, -1⟩ := if_pos h

theorem Decimal.asRead_of_not_whole {w : Decimal}
    (h : ¬ (0 ≤ w.exponent ∧ w.leadingExponent ≤ 12)) : w.asRead = w := if_neg h

/-- Whole numbers that are written out are not large. -/
theorem Decimal.digits_mul_pow_lt {w : Decimal} (h : 0 ≤ w.exponent ∧ w.leadingExponent ≤ 12) :
    w.digits * 10 ^ w.exponent.toNat < 10 ^ 13 := by
  unfold leadingExponent at h
  calc w.digits * 10 ^ w.exponent.toNat < 10 ^ digitCount w.digits * 10 ^ w.exponent.toNat := by
        gcongr
        exact lt_pow_digitCount _
    _ = 10 ^ (digitCount w.digits + w.exponent.toNat) := (pow_add _ _ _).symm
    _ ≤ 10 ^ 13 := Nat.pow_le_pow_right (by norm_num) (by omega)

/-- Whole numbers that are written out are read exactly. -/
theorem Decimal.reading_cases {w : Decimal} (hpos : 0 < w.digits) :
    w.reading = readBack w.digits w.exponent ∨ w.reading.toRat = w.toRat := by
  unfold reading
  by_cases hwhole : 0 ≤ w.exponent ∧ w.leadingExponent ≤ 12
  · right
    have hlt := digits_mul_pow_lt hwhole
    obtain ⟨k, hk⟩ := Int.eq_ofNat_of_zero_le hwhole.1
    have hnat : (w.exponent + 1).toNat = k + 1 := by omega
    have hval : ((w.digits * 10 ^ (k + 1) : ℕ) : ℚ) * 10 ^ (-1 : ℤ)
        = ((w.digits * 10 ^ k : ℕ) : ℚ) * 2 ^ (0 : ℤ) := by
      push_cast
      rw [pow_succ]
      norm_num
      ring
    rw [hk, Int.toNat_natCast] at hlt
    rw [asRead_of_whole hwhole]
    simp only [hnat]
    rw [toRat_readBack_of_exact (by positivity) (by rw [pow_succ, ← mul_assoc]; omega) (by decide)
      (s := w.digits * 10 ^ k) (by omega) (by norm_num) hval, hval, Decimal.toRat, hk]
    push_cast
    simp
  · left
    rw [asRead_of_not_whole hwhole]

/-- A decimal that can be written for a magnitude: it has few digits and a small exponent, and its
written form is read as the magnitude. -/
structure Binary.Magnitude.WrittenAs (x : Magnitude) (w : Decimal) : Prop where
  digits_pos : 0 < w.digits
  digits_le : w.digits ≤ 10 ^ 9
  le_exponent : -60 ≤ w.exponent
  exponent_le : w.exponent ≤ 60
  narrow_reading : single.narrow w.reading = x

/-- Check the powers of two, whose rounding intervals are not symmetric. -/
def powerOfTwoIsKept (q : ℤ) : Bool :=
  let w := single.shortest 9 ⟨2 ^ 23, q⟩
  0 < w.digits && w.digits ≤ 10 ^ 9 && -60 ≤ w.exponent && w.exponent ≤ 60
    && single.narrow w.reading == ⟨2 ^ 23, q⟩

theorem powerOfTwoIsKept_all : ∀ k < 254, powerOfTwoIsKept ((k : ℕ) - 149) = true := by
  decide +kernel

theorem writtenAs_shortest_of_powerOfTwo {q : ℤ} (hlow : -149 ≤ q) (hhigh : q ≤ 104) :
    (⟨2 ^ 23, q⟩ : Magnitude).WrittenAs (single.shortest 9 ⟨2 ^ 23, q⟩) := by
  have h := powerOfTwoIsKept_all (q + 149).toNat (by omega)
  rw [Int.toNat_of_nonneg (by omega), add_sub_cancel_right] at h
  simp only [powerOfTwoIsKept, Bool.and_eq_true, decide_eq_true_eq, beq_iff_eq] at h
  obtain ⟨⟨⟨⟨h1, h2⟩, h3⟩, h4⟩, h5⟩ := h
  exact ⟨h1, h2, h3, h4, h5⟩

/-- The exponent of the nearest decimal of a magnitude. -/
theorem Binary.Magnitude.IsNearest.exponent_bounds {x : Magnitude} {w : Decimal}
    (hw : x.IsNearest w) (hx : single.Canonical x) (hpos : 0 < x.significand)
    (hhigh : x.exponent ≤ 104) : -60 ≤ w.exponent ∧ w.exponent ≤ 60 := by
  have hleast : -149 ≤ x.exponent := hx.leastExponent_le
  have hupper := hw.toRat_lt hx.significand_lt
  have hdigits : (1 : ℚ) ≤ w.digits := by exact_mod_cast hw.trimmed.digits_pos
  have hdigits' : (w.digits : ℚ) ≤ 10 ^ 9 := by exact_mod_cast hw.digits_le
  have hten := ten_zpow_pos w.exponent
  have hlower : (2 : ℚ) ^ (x.exponent - 1) ≤ w.toRat := by
    rw [zpow_sub_one₀ two_ne_zero, mul_comm, ← le_div_iff₀ (two_zpow_pos _), ← one_div]
    exact hw.rounds.half_le hpos
  constructor
  · have hpow : (10 : ℚ) ^ (-60 : ℤ) < 10 ^ w.exponent := by
      have hsmall : (10 : ℚ) ^ 9 * 10 ^ (-60 : ℤ) < 10 ^ 9 * 10 ^ w.exponent := by
        calc (10 : ℚ) ^ 9 * 10 ^ (-60 : ℤ) < 2 ^ (-150 : ℤ) := by norm_num
          _ ≤ 2 ^ (x.exponent - 1) := zpow_le_zpow_right₀ one_le_two (by omega)
          _ ≤ w.digits * 10 ^ w.exponent := hlower
          _ ≤ 10 ^ 9 * 10 ^ w.exponent := by gcongr
      exact lt_of_mul_lt_mul_left hsmall (by positivity)
    exact ((zpow_lt_zpow_iff_right₀ (by norm_num)).1 hpow).le
  · have hpow : (10 : ℚ) ^ w.exponent < 10 ^ (60 : ℤ) := by
      calc (10 : ℚ) ^ w.exponent ≤ w.digits * 10 ^ w.exponent :=
            le_mul_of_one_le_left hten.le hdigits
        _ < 2 ^ (x.exponent + 24) := hupper
        _ ≤ 2 ^ (128 : ℤ) := zpow_le_zpow_right₀ one_le_two (by omega)
        _ < 10 ^ (60 : ℤ) := by norm_num
    exact ((zpow_lt_zpow_iff_right₀ (by norm_num)).1 hpow).le

/-- A positive magnitude of the 32-bit format is read back from its shortest decimal. -/
theorem writtenAs_shortest {x : Magnitude} (hx : single.Canonical x) (hpos : 0 < x.significand)
    (hhigh : x.exponent ≤ 104) : x.WrittenAs (single.shortest 9 x) := by
  have hlow : -149 ≤ x.exponent := hx.leastExponent_le
  by_cases hsym : single.Symmetric x
  · have hw := shortest_isNearest hsym hpos hx.significand_lt
    obtain ⟨hexp, hexp'⟩ := hw.exponent_bounds hx hpos hhigh
    refine ⟨hw.trimmed.digits_pos, hw.digits_le, hexp, hexp', ?_⟩
    generalize single.shortest 9 x = w at *
    have hrounds : RoundsTo (w.reading.toRat / 2 ^ x.exponent) x.significand := by
      rcases Decimal.reading_cases hw.trimmed.digits_pos with h | h
      · rw [h]
        exact roundsTo_readBack hx hpos hhigh hw (by omega)
      · rw [h]
        exact hw.rounds
    have hreading : 0 < w.reading.toRat := by
      have hhalf := hrounds.half_le hpos
      rw [le_div_iff₀ (two_zpow_pos _)] at hhalf
      exact lt_of_lt_of_le (mul_pos (by norm_num) (two_zpow_pos _)) hhalf
    refine Format.round_eq_of_roundsTo hx (by decide) hsym
      (Magnitude.num_pos_of_toRat_pos hreading) w.reading.den_pos ?_
    rwa [Magnitude.num_div_den]
  · rw [Format.Symmetric, Classical.not_imp] at hsym
    obtain ⟨m, q⟩ := x
    obtain rfl : m = 2 ^ 23 := hsym.1
    exact writtenAs_shortest_of_powerOfTwo hlow hhigh

end ModelPreview
