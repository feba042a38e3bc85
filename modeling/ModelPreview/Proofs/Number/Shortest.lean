import Mathlib
import ModelPreview.Proofs.Number.Rounding

/-!
# What the search for the shortest decimal finds

The search for the shortest decimal of a 32-bit magnitude ends within nine digits.  What it finds
rounds back to the magnitude, is nearest to it on its decimal grid and has no trailing zeros.  The
powers of two, whose rounding interval is not symmetric, are left out here.

Main results:

- `log10Quotient_spec`: the decimal logarithm of a quotient.
- `Binary.RoundingInterval.holds_interval_iff`: the interval test is a rounding in the sense of
  `RoundsTo`.
- `Binary.shortest_isNearest`: what the search finds.
-/

namespace ModelPreview

/-! ## Decimal logarithms -/

theorem digitCount_pos (n : ℕ) : 0 < digitCount n := Nat.length_toDigits_pos

theorem lt_pow_digitCount (n : ℕ) : n < 10 ^ digitCount n :=
  (Nat.length_toDigits_le_iff (by norm_num) (digitCount_pos n)).1 le_rfl

theorem pow_digitCount_le {n : ℕ} (hn : 0 < n) : 10 ^ (digitCount n - 1) ≤ n := by
  rcases Nat.eq_zero_or_pos (digitCount n - 1) with hzero | hpos
  · rw [hzero, pow_zero]
    exact hn
  · by_contra hlt
    have hle : digitCount n ≤ digitCount n - 1 :=
      (Nat.length_toDigits_le_iff (by norm_num) hpos).2 (not_le.1 hlt)
    omega

/-- The decimal logarithm of a quotient, rounded down. -/
theorem log10Quotient_spec {n d : ℕ} (hn : 0 < n) (hd : 0 < d) :
    (10 : ℚ) ^ log10Quotient n d ≤ n / d ∧ (n / d : ℚ) < 10 ^ (log10Quotient n d + 1) := by
  have hnq : (0 : ℚ) < n := by exact_mod_cast hn
  have hdq : (0 : ℚ) < d := by exact_mod_cast hd
  unfold log10Quotient
  split
  · rename_i hle
    have hpos : 0 < n / d := Nat.div_pos hle hd
    have hc := digitCount_pos (n / d)
    have hlow := pow_digitCount_le hpos
    have hhigh := lt_pow_digitCount (n / d)
    rw [Nat.le_div_iff_mul_le hd] at hlow
    rw [Nat.div_lt_iff_lt_mul hd] at hhigh
    constructor
    · rw [le_div_iff₀ hdq, show (digitCount (n / d) : ℤ) - 1 = ((digitCount (n / d) - 1 : ℕ) : ℤ) by
        omega, zpow_natCast]
      exact_mod_cast hlow
    · rw [div_lt_iff₀ hdq, sub_add_cancel, zpow_natCast]
      exact_mod_cast hhigh
  · rename_i hlt
    have hpos : 0 < (d - 1) / n := Nat.div_pos (by omega) hn
    have hc := digitCount_pos ((d - 1) / n)
    have hlow := pow_digitCount_le hpos
    have hhigh := lt_pow_digitCount ((d - 1) / n)
    rw [Nat.le_div_iff_mul_le hn] at hlow
    rw [Nat.div_lt_iff_lt_mul hn] at hhigh
    constructor
    · rw [zpow_neg, zpow_natCast, inv_le_iff_one_le_mul₀ (by positivity), div_mul_eq_mul_div,
        le_div_iff₀ hdq, one_mul, mul_comm]
      have : d ≤ 10 ^ digitCount ((d - 1) / n) * n := by omega
      exact_mod_cast this
    · rw [show -(digitCount ((d - 1) / n) : ℤ) + 1 = -((digitCount ((d - 1) / n) - 1 : ℕ) : ℤ) by
        omega, zpow_neg, zpow_natCast, div_lt_iff₀ hdq, ← div_eq_inv_mul,
        lt_div_iff₀ (by positivity), mul_comm]
      have : 10 ^ (digitCount ((d - 1) / n) - 1) * n < d := by omega
      exact_mod_cast this

/-! ## Trailing zeros -/

namespace Decimal

/-- The exact value of a decimal. -/
def toRat (w : Decimal) : ℚ := w.digits * 10 ^ w.exponent

@[simp]
theorem toRat_mk (n : ℕ) (e : ℤ) : (⟨n, e⟩ : Decimal).toRat = n * 10 ^ e := rfl

/-- A decimal in its shortest spelling. -/
structure Trimmed (w : Decimal) : Prop where
  digits_pos : 0 < w.digits
  last_ne_zero : w.digits % 10 ≠ 0

/-- Trailing zeros go, the value stays. -/
theorem trim_spec (k : ℕ) (w : Decimal) (hpos : 0 < w.digits) (hlt : w.digits < 10 ^ (k + 1)) :
    (trim k w).toRat = w.toRat ∧ (trim k w).Trimmed ∧ w.exponent ≤ (trim k w).exponent ∧
      (trim k w).digits ≤ w.digits := by
  induction k generalizing w with
  | zero =>
    refine ⟨rfl, ⟨hpos, ?_⟩, le_rfl, le_rfl⟩
    rw [trim]
    omega
  | succ k ih =>
    rw [trim]
    split
    · rename_i hzero
      obtain ⟨hval, htrim, hexp, hdigits⟩ := ih ⟨w.digits / 10, w.exponent + 1⟩
        (by change 0 < w.digits / 10; omega)
        (by change w.digits / 10 < _; rw [Nat.div_lt_iff_lt_mul (by norm_num), ← pow_succ]; exact hlt)
      refine ⟨?_, htrim, le_trans (by simp) hexp, hdigits.trans (Nat.div_le_self _ _)⟩
      have hdiv : (w.digits : ℚ) = (w.digits / 10 : ℕ) * 10 := by
        exact_mod_cast (Nat.div_mul_cancel (Nat.dvd_of_mod_eq_zero hzero.1)).symm
      rw [hval, toRat_mk, toRat, hdiv, zpow_add_one₀ (by norm_num)]
      ring
    · rename_i hnonzero
      exact ⟨rfl, ⟨hpos, fun h => hnonzero ⟨h, hpos.ne'⟩⟩, le_rfl, le_rfl⟩

/-- A value has only one spelling without trailing zeros. -/
theorem Trimmed.ext {w w' : Decimal} (h : w.Trimmed) (h' : w'.Trimmed)
    (heq : w.toRat = w'.toRat) : w = w' := by
  wlog hle : w.exponent ≤ w'.exponent generalizing w w'
  · exact (this h' h heq.symm (by omega)).symm
  obtain ⟨n, e⟩ := w
  obtain ⟨n', e'⟩ := w'
  simp only at hle
  obtain ⟨k, rfl⟩ : ∃ k : ℕ, e' = e + k := ⟨(e' - e).toNat, by omega⟩
  rw [toRat_mk, toRat_mk, zpow_add₀ (by norm_num), mul_comm ((10 : ℚ) ^ e), ← mul_assoc,
    zpow_natCast] at heq
  have hdigits : n = n' * 10 ^ k := by
    exact_mod_cast mul_right_cancel₀ (ten_zpow_pos e).ne' heq
  -- A positive `k` would leave a zero at the end of `n`.
  rcases Nat.eq_zero_or_pos k with rfl | hk
  · simp [hdigits]
  · have hlast : n % 10 ≠ 0 := h.last_ne_zero
    obtain ⟨j, rfl⟩ : ∃ j, k = j + 1 := ⟨k - 1, by omega⟩
    rw [hdigits, pow_succ, ← mul_assoc] at hlast
    exact absurd (Nat.mul_mod_left _ 10) hlast

end Decimal

/-! ## The two neighbours on a grid -/

namespace Binary

/-- A magnitude whose neighbours are equally far on both sides. -/
def Format.Symmetric (f : Format) (x : Magnitude) : Prop :=
  x.significand = 2 ^ (f.precision - 1) → x.exponent = f.leastExponent

namespace RoundingInterval

/-- The step of a decimal grid, in places of a magnitude. -/
def gridStep (q e : ℤ) : ℚ := 10 ^ e / 2 ^ q

/-- The two scales of the grid search, as multiples of one number. -/
theorem exists_scale (q e : ℤ) : ∃ c : ℚ, 0 < c ∧
    ((10 ^ e.toNat * 2 ^ (2 - q).toNat : ℕ) : ℚ) = gridStep q e * c ∧
    ((2 ^ (q - 2).toNat * 10 ^ (-e).toNat : ℕ) : ℚ) = c / 4 := by
  have hten := zpow_eq_div (show (10 : ℕ) ≠ 0 by norm_num) e
  have htwo := zpow_eq_div (show (2 : ℕ) ≠ 0 by norm_num) (q - 2)
  rw [show -(q - 2) = 2 - q by ring, zpow_sub₀ (by norm_num)] at htwo
  push_cast at hten htwo
  refine ⟨2 ^ q * (10 ^ (-e).toNat * 2 ^ (2 - q).toNat), by positivity, ?_, ?_⟩
  · rw [gridStep, hten]
    push_cast
    have := (two_zpow_pos q).ne'
    field_simp
  · rw [div_eq_div_iff (by norm_num) (by positivity)] at htwo
    push_cast
    linear_combination (-(10 : ℚ) ^ (-e).toNat / 4) * htwo

section Neighbours

variable {f : Format} {x : Magnitude} {unit quarter : ℕ} {t c : ℚ}

/-- The interval test of a grid point is a rounding of the grid point. -/
theorem holds_interval_iff (hx : f.Symmetric x) (hpos : 0 < x.significand) (hc : 0 < c)
    (hunit : (unit : ℚ) = t * c) (hquarter : (quarter : ℚ) = c / 4) (a : ℕ) :
    (f.interval x).holds quarter unit a = true ↔ RoundsTo (a * t) x.significand := by
  have hlow : (f.interval x).low = 4 * x.significand - 2 :=
    if_neg fun h => absurd (hx h.1) h.2.ne'
  have hcast : (((f.interval x).low : ℕ) : ℚ) = 4 * x.significand - 2 := by
    rw [hlow, Nat.cast_sub (by omega)]
    push_cast
    rfl
  have hhigh : (((f.interval x).high : ℕ) : ℚ) = 4 * x.significand + 2 := by
    simp [Format.interval]
  have hscale : (((f.interval x).low * quarter : ℕ) : ℚ) = (x.significand - 1 / 2) * c ∧
      (((f.interval x).high * quarter : ℕ) : ℚ) = (x.significand + 1 / 2) * c ∧
      ((a * unit : ℕ) : ℚ) = a * t * c := by
    rw [Nat.cast_mul, Nat.cast_mul, Nat.cast_mul, hcast, hhigh, hunit, hquarter]
    refine ⟨?_, ?_, ?_⟩ <;> ring
  obtain ⟨hl, hh, ha⟩ := hscale
  have hle : (f.interval x).low * quarter ≤ a * unit ↔ (x.significand : ℚ) - 1 / 2 ≤ a * t := by
    rw [← @Nat.cast_le ℚ, hl, ha, mul_le_mul_iff_of_pos_right hc]
  have hge : a * unit ≤ (f.interval x).high * quarter ↔ a * t ≤ (x.significand : ℚ) + 1 / 2 := by
    rw [← @Nat.cast_le ℚ, hh, ha, mul_le_mul_iff_of_pos_right hc]
  have hlt : (f.interval x).low * quarter < a * unit ↔ (x.significand : ℚ) - 1 / 2 < a * t := by
    rw [← @Nat.cast_lt ℚ, hl, ha, mul_lt_mul_iff_of_pos_right hc]
  have hgt : a * unit < (f.interval x).high * quarter ↔ a * t < (x.significand : ℚ) + 1 / 2 := by
    rw [← @Nat.cast_lt ℚ, hh, ha, mul_lt_mul_iff_of_pos_right hc]
  unfold holds RoundsTo
  rcases Nat.mod_two_eq_zero_or_one x.significand with heven | hodd
  · have hclosed : (f.interval x).closed = true := by simp [Format.interval, heven]
    rw [if_pos hclosed, Bool.and_eq_true, decide_eq_true_eq, decide_eq_true_eq, hle, hge, abs_le]
    refine ⟨fun h => ⟨⟨by linarith, by linarith⟩, fun _ => heven⟩, fun h => ?_⟩
    exact ⟨by linarith [h.1.1], by linarith [h.1.2]⟩
  · have hclosed : ¬ (f.interval x).closed = true := by simp [Format.interval, hodd]
    rw [if_neg hclosed, Bool.and_eq_true, decide_eq_true_eq, decide_eq_true_eq, hlt, hgt]
    constructor
    · rintro ⟨hleft, hright⟩
      have hstrict : |(a : ℚ) * t - x.significand| < 1 / 2 := by
        rw [abs_lt]
        constructor <;> linarith
      exact RoundsTo.of_lt hstrict
    · rintro ⟨hnear, htie⟩
      have hstrict : |(a : ℚ) * t - x.significand| < 1 / 2 :=
        lt_of_le_of_ne hnear fun heq => by
          have := htie heq
          omega
      rw [abs_lt] at hstrict
      exact ⟨by linarith [hstrict.1], by linarith [hstrict.2]⟩

variable {a value : ℕ} {m : ℚ}

theorem mul_le_of_scaled (hc : 0 < c) (hunit : (unit : ℚ) = t * c) (hvalue : (value : ℚ) = m * c)
    (hle : a * unit ≤ value) : a * t ≤ m := by
  have hscaled : ((a * unit : ℕ) : ℚ) ≤ value := by exact_mod_cast hle
  rw [Nat.cast_mul, hunit, hvalue, ← mul_assoc] at hscaled
  exact le_of_mul_le_mul_right hscaled hc

theorem lt_mul_of_scaled (hc : 0 < c) (hunit : (unit : ℚ) = t * c) (hvalue : (value : ℚ) = m * c)
    (hlt : value < a * unit) : m < a * t := by
  have hscaled : (value : ℚ) < ((a * unit : ℕ) : ℚ) := by exact_mod_cast hlt
  rw [Nat.cast_mul, hunit, hvalue, ← mul_assoc] at hscaled
  exact lt_of_mul_lt_mul_right hscaled hc.le

/-- The scaled distance of a grid point below. -/
theorem cast_below (hc : 0 < c) (hunit : (unit : ℚ) = t * c) (hvalue : (value : ℚ) = m * c)
    (hle : a * unit ≤ value) : ((value - a * unit : ℕ) : ℚ) = |a * t - m| * c := by
  have hbelow := mul_le_of_scaled hc hunit hvalue hle
  rw [Nat.cast_sub hle, Nat.cast_mul, hunit, hvalue, abs_sub_comm, abs_of_nonneg (by linarith)]
  ring

/-- The scaled distance of a grid point above. -/
theorem cast_above (hc : 0 < c) (hunit : (unit : ℚ) = t * c) (hvalue : (value : ℚ) = m * c)
    (hlt : value < a * unit) : ((a * unit - value : ℕ) : ℚ) = |a * t - m| * c := by
  have habove := lt_mul_of_scaled hc hunit hvalue hlt
  rw [Nat.cast_sub hlt.le, Nat.cast_mul, hunit, hvalue, abs_of_nonneg (by linarith)]
  ring

/-- The distances of two neighbours to a number between them make up the step. -/
theorem dist_add_dist (hfloor : a * t ≤ m) (hceil : m < ((a + 1 : ℕ) : ℚ) * t) :
    |a * t - m| + |((a + 1 : ℕ) : ℚ) * t - m| = t := by
  rw [abs_sub_comm, abs_of_nonneg (by linarith), abs_of_nonneg (by linarith), Nat.cast_succ]
  ring

end Neighbours

/-- The grid search of a magnitude looks at the two grid points around it.  It fails if neither
rounds to the magnitude, and otherwise finds one that does and is nearest on the grid. -/
theorem onGrid_spec {f : Format} {m : ℕ} {q : ℤ} (hx : f.Symmetric ⟨m, q⟩) (hpos : 0 < m) (e : ℤ) :
    ∃ a : ℕ, a * gridStep q e ≤ m ∧ m < (a + 1) * gridStep q e ∧
      match (f.interval ⟨m, q⟩).onGrid (2 ^ (q - 2).toNat) (2 ^ (2 - q).toNat) e with
      | none => ¬ RoundsTo (a * gridStep q e) m ∧ ¬ RoundsTo ((a + 1) * gridStep q e) m
      | some w => w.exponent = e ∧ RoundsTo (w.digits * gridStep q e) m ∧
          |w.digits * gridStep q e - m| ≤ gridStep q e / 2 := by
  obtain ⟨c, hc, hunit, hquarter⟩ := exists_scale q e
  unfold onGrid
  simp only
  generalize gridStep q e = t at *
  generalize hu : 10 ^ e.toNat * 2 ^ (2 - q).toNat = unit at *
  generalize 2 ^ (q - 2).toNat * 10 ^ (-e).toNat = quarter at *
  have hholds := holds_interval_iff hx hpos hc hunit hquarter
  generalize hv : (f.interval ⟨m, q⟩).mid * quarter = value
  have hvalue : (value : ℚ) = m * c := by
    rw [← hv, Nat.cast_mul, hquarter]
    simp only [Format.interval]
    push_cast
    ring
  have hunitpos : 0 < unit := by
    rw [← hu]
    positivity
  have hle : value / unit * unit ≤ value := Nat.div_mul_le_self value unit
  have hlt : value < (value / unit + 1) * unit := Nat.lt_mul_of_div_lt (Nat.lt_succ_self _) hunitpos
  generalize value / unit = a at *
  have hfloor := mul_le_of_scaled hc hunit hvalue hle
  have hceil := lt_mul_of_scaled hc hunit hvalue hlt
  have hstep := dist_add_dist hfloor hceil
  -- The search compares the scaled distances of the two neighbours.
  have hnearer : value - a * unit < (a + 1) * unit - value ↔
      |(a : ℚ) * t - m| < |((a + 1 : ℕ) : ℚ) * t - m| := by
    rw [← @Nat.cast_lt ℚ, cast_below hc hunit hvalue hle, cast_above hc hunit hvalue hlt,
      mul_lt_mul_iff_of_pos_right hc]
  have hfarther : (a + 1) * unit - value < value - a * unit ↔
      |((a + 1 : ℕ) : ℚ) * t - m| < |(a : ℚ) * t - m| := by
    rw [← @Nat.cast_lt ℚ, cast_below hc hunit hvalue hle, cast_above hc hunit hvalue hlt,
      mul_lt_mul_iff_of_pos_right hc]
  refine ⟨a, hfloor, by rwa [Nat.cast_succ] at hceil, ?_⟩
  rcases hlow : (f.interval ⟨m, q⟩).holds quarter unit a with _ | _ <;>
    rcases hhigh : (f.interval ⟨m, q⟩).holds quarter unit (a + 1) with _ | _
  · rw [← Nat.cast_succ]
    exact ⟨mt (hholds a).2 (by simp [hlow]), mt (hholds (a + 1)).2 (by simp [hhigh])⟩
  · have hround := (hholds (a + 1)).1 hhigh
    have hcloser := hround.abs_sub_le (mt (hholds a).2 (by simp [hlow]))
    exact ⟨rfl, hround, by linarith⟩
  · have hround := (hholds a).1 hlow
    have hcloser := hround.abs_sub_le (mt (hholds (a + 1)).2 (by simp [hhigh]))
    exact ⟨rfl, hround, by linarith⟩
  · have hround := (hholds a).1 hlow
    have hround' := (hholds (a + 1)).1 hhigh
    simp only [hnearer, hfarther]
    by_cases hbelow : |(a : ℚ) * t - m| < |((a + 1 : ℕ) : ℚ) * t - m|
    · rw [if_pos hbelow]
      exact ⟨rfl, hround, by linarith⟩
    rw [if_neg hbelow]
    by_cases habove : |((a + 1 : ℕ) : ℚ) * t - m| < |(a : ℚ) * t - m|
    · rw [if_pos habove]
      exact ⟨rfl, hround', by linarith⟩
    rw [if_neg habove]
    -- Both are equally near, and the even one is taken.
    rcases Nat.mod_two_eq_zero_or_one a with heven | hodd
    · rw [heven]
      exact ⟨rfl, hround, by simp only [Nat.add_zero]; linarith⟩
    · rw [hodd]
      exact ⟨rfl, hround', by linarith⟩

/-- A grid finer than the places of the magnitude has a point that rounds to it. -/
theorem onGrid_isSome {f : Format} {m : ℕ} {q e : ℤ} (hx : f.Symmetric ⟨m, q⟩) (hpos : 0 < m)
    (hfine : gridStep q e < 1) :
    ((f.interval ⟨m, q⟩).onGrid (2 ^ (q - 2).toNat) (2 ^ (2 - q).toNat) e).isSome = true := by
  obtain ⟨a, hfloor, hceil, hcase⟩ := onGrid_spec hx hpos e
  rw [Option.isSome_iff_ne_none]
  intro hnone
  rw [hnone] at hcase
  rcases le_or_gt ((m : ℚ) - a * gridStep q e) (gridStep q e / 2) with hnear | hfar
  · apply hcase.1
    apply RoundsTo.of_lt
    rw [abs_sub_comm, abs_of_nonneg (by linarith)]
    linarith
  · apply hcase.2
    apply RoundsTo.of_lt
    rw [abs_of_nonneg (by linarith)]
    linarith

/-- Nine digits are enough for a 32-bit magnitude: one of the grids gives a result. -/
theorem exists_onGrid {m : ℕ} {q top : ℤ} (hx : single.Symmetric ⟨m, q⟩) (hpos : 0 < m)
    (hlt : m < 2 ^ 24) (htop : (10 : ℚ) ^ top ≤ m * 2 ^ q) :
    ∃ w, ((List.range 9).findSome? fun k : ℕ => (single.interval ⟨m, q⟩).onGrid
      (2 ^ (q - 2).toNat) (2 ^ (2 - q).toNat) (top - k)) = some w := by
  have hfine : gridStep q (top - (8 : ℕ)) < 1 := by
    rw [gridStep, div_lt_one (two_zpow_pos q), zpow_sub₀ (by norm_num),
      div_lt_iff₀ (by positivity)]
    have hm : (m : ℚ) < 2 ^ 24 := by exact_mod_cast hlt
    calc (10 : ℚ) ^ top ≤ m * 2 ^ q := htop
      _ < 2 ^ 24 * 2 ^ q := by gcongr
      _ ≤ 2 ^ q * 10 ^ ((8 : ℕ) : ℤ) := by
        rw [mul_comm, zpow_natCast]
        gcongr
        norm_num
  rw [← Option.isSome_iff_exists, Option.isSome_iff_ne_none]
  intro hnone
  have hlast := onGrid_isSome hx hpos hfine
  rw [List.findSome?_eq_none_iff.1 hnone 8 (by simp)] at hlast
  cases hlast

/-- A grid point at most half a step away, out of places of the magnitude. -/
theorem abs_toRat_sub_le {m : ℕ} {q : ℤ} {w : Decimal}
    (h : |w.digits * gridStep q w.exponent - m| ≤ gridStep q w.exponent / 2) :
    |w.toRat - m * 2 ^ q| ≤ 10 ^ w.exponent / 2 := by
  have hq := two_zpow_pos q
  have hscale : w.toRat - m * 2 ^ q = (w.digits * gridStep q w.exponent - m) * 2 ^ q := by
    rw [gridStep, Decimal.toRat]
    field_simp
  rw [hscale, abs_mul, abs_of_pos hq, ← le_div_iff₀ hq]
  exact h.trans_eq (by rw [gridStep]; ring)

/-- A grid point next to a number has no more digits than there are places in front of the grid. -/
theorem digits_le {w : Decimal} {z : ℚ} {top : ℤ} {k : ℕ} (hz : z < 10 ^ (top + 1))
    (htop : top + 1 ≤ k + w.exponent) (h : |w.toRat - z| ≤ 10 ^ w.exponent / 2) :
    w.digits ≤ 10 ^ k := by
  have he := ten_zpow_pos w.exponent
  have hupper := (abs_le.1 h).2
  have hstep : (10 : ℚ) ^ (top + 1) ≤ 10 ^ k * 10 ^ w.exponent := by
    rw [← zpow_natCast, ← zpow_add₀ (by norm_num)]
    exact zpow_le_zpow_right₀ (by norm_num) htop
  rw [Decimal.toRat] at hupper
  have hscaled : (w.digits : ℚ) * 10 ^ w.exponent < (10 ^ k + 1) * 10 ^ w.exponent := by linarith
  have hlt : (w.digits : ℚ) < 10 ^ k + 1 := lt_of_mul_lt_mul_right hscaled he.le
  have : w.digits < 10 ^ k + 1 := by exact_mod_cast hlt
  omega

end RoundingInterval

/-! ## The search -/

/-- A decimal that stands for a magnitude: it rounds to the magnitude, is its nearest neighbour on
some decimal grid and is spelled with at most ten digits and no trailing zeros. -/
structure Magnitude.IsNearest (x : Magnitude) (w : Decimal) : Prop where
  rounds : RoundsTo (w.toRat / 2 ^ x.exponent) x.significand
  trimmed : w.Trimmed
  digits_le : w.digits ≤ 10 ^ 9
  onGrid : ∃ e ≤ w.exponent, |w.toRat - x.toRat| ≤ 10 ^ e / 2

/-- The search for the shortest decimal of a 32-bit magnitude succeeds. -/
theorem shortest_isNearest {x : Magnitude} (hx : single.Symmetric x) (hpos : 0 < x.significand)
    (hlt : x.significand < 2 ^ 24) : x.IsNearest (single.shortest 9 x) := by
  obtain ⟨m, q⟩ := x
  simp only at hpos hlt
  have hnum : 0 < (⟨m, q⟩ : Magnitude).num := Nat.mul_pos hpos (by positivity)
  obtain ⟨htop, htop'⟩ := log10Quotient_spec hnum (⟨m, q⟩ : Magnitude).den_pos
  rw [Magnitude.num_div_den, Magnitude.toRat_mk] at htop htop'
  unfold Format.shortest
  simp only
  generalize log10Quotient (⟨m, q⟩ : Magnitude).num (⟨m, q⟩ : Magnitude).den = top at *
  obtain ⟨w, hw⟩ := RoundingInterval.exists_onGrid hx hpos hlt htop
  rw [hw, Option.getD_some]
  -- What was found stands on one of the nine grids.
  obtain ⟨k, hk, hwk⟩ := List.exists_of_findSome?_eq_some hw
  obtain ⟨_, -, -, hcase⟩ := RoundingInterval.onGrid_spec hx hpos (top - k)
  rw [hwk] at hcase
  obtain ⟨hexp, hrounds, hnear⟩ := hcase
  rw [← hexp] at hrounds hnear
  have hgrid := RoundingInterval.abs_toRat_sub_le hnear
  have hdigits : w.digits ≤ 10 ^ 9 := by
    refine RoundingInterval.digits_le htop' ?_ hgrid
    rw [List.mem_range] at hk
    omega
  have hsome : 0 < w.digits := by
    rw [Nat.pos_iff_ne_zero]
    intro hzero
    have hhalf := hrounds.half_le hpos
    rw [hzero, Nat.cast_zero, zero_mul] at hhalf
    norm_num at hhalf
  obtain ⟨htrimval, htrim, hexple, hfewer⟩ := Decimal.trim_spec 9 w hsome
    (lt_of_le_of_lt hdigits (by norm_num))
  refine ⟨?_, htrim, hfewer.trans hdigits, w.exponent, hexple, ?_⟩
  · rw [htrimval, Decimal.toRat, mul_div_assoc]
    exact hrounds
  · rw [htrimval, Magnitude.toRat_mk]
    exact hgrid

end Binary
end ModelPreview
