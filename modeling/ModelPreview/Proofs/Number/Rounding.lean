import Mathlib
import ModelPreview.Number.Shortest

/-!
# Rounding to a binary format

The exact value of a magnitude is a rational number, and rounding a quotient of natural numbers is
described by that quotient alone.  A magnitude is the rounding of every quotient less than half a
last place away from it, the error of a rounded value is bounded relative to the value, and what a
format can hold is kept as it is.

Main results:

- `roundDiv_eq_iff`: the integer that `roundDiv` finds.
- `Binary.Format.round_eq_of_roundsTo`: when a quotient rounds to a given magnitude.
- `Binary.Format.abs_toRat_round_sub_le`: the relative error of a rounding.
- `Binary.Format.toRat_round_of_exact`: values of the format are not changed.
-/

namespace ModelPreview

/-! ## Integer powers as quotients -/

/-- An integer power of a natural number, split into its numerator and denominator. -/
theorem zpow_eq_div {b : ℕ} (hb : b ≠ 0) (e : ℤ) :
    (b : ℚ) ^ e = ((b ^ e.toNat : ℕ) : ℚ) / ((b ^ (-e).toNat : ℕ) : ℚ) := by
  have hsplit : e = (e.toNat : ℤ) - ((-e).toNat : ℤ) := by omega
  conv_lhs => rw [hsplit]
  rw [zpow_sub₀ (by exact_mod_cast hb)]
  push_cast
  rfl

theorem two_zpow_pos (e : ℤ) : (0 : ℚ) < 2 ^ e := zpow_pos (by norm_num) e

theorem ten_zpow_pos (e : ℤ) : (0 : ℚ) < 10 ^ e := zpow_pos (by norm_num) e

/-- A quotient scaled by a power of two is again a quotient of natural numbers. -/
theorem div_mul_two_pow (n d : ℕ) (e : ℤ) :
    ((n * 2 ^ (-e).toNat : ℕ) : ℚ) / ((d * 2 ^ e.toNat : ℕ) : ℚ) = (n / d : ℚ) / 2 ^ e := by
  have hpow := zpow_eq_div two_ne_zero e
  push_cast at hpow ⊢
  rw [hpow]
  have h1 : (0 : ℚ) < 2 ^ e.toNat := by positivity
  have h2 : (0 : ℚ) < 2 ^ (-e).toNat := by positivity
  rcases Nat.eq_zero_or_pos d with rfl | hd
  · simp
  · have h3 : (0 : ℚ) < d := by exact_mod_cast hd
    field_simp

/-! ## Rounding to an integer -/

/-- The natural number `m` is nearest to `z`, and even if `z` lies halfway to another one. -/
def RoundsTo (z : ℚ) (m : ℕ) : Prop := |z - m| ≤ 1 / 2 ∧ (|z - m| = 1 / 2 → m % 2 = 0)

theorem RoundsTo.of_lt {z : ℚ} {m : ℕ} (h : |z - m| < 1 / 2) : RoundsTo z m :=
  ⟨h.le, fun heq => absurd heq h.ne⟩

/-- What rounds to a number is at most as far from it as what does not. -/
theorem RoundsTo.abs_sub_le {z z' : ℚ} {m : ℕ} (h : RoundsTo z m) (h' : ¬ RoundsTo z' m) :
    |z - m| ≤ |z' - m| := by
  by_contra hfar
  exact h' (.of_lt (by linarith [h.1]))

theorem RoundsTo.half_le {z : ℚ} {m : ℕ} (h : RoundsTo z m) (hm : 0 < m) : 1 / 2 ≤ z := by
  have hcast : (1 : ℚ) ≤ m := by exact_mod_cast hm
  linarith [(abs_le.1 h.1).1]

/-- Only one natural number is the rounding of `z`. -/
theorem RoundsTo.unique {z : ℚ} {m m' : ℕ} (h : RoundsTo z m) (h' : RoundsTo z m') : m = m' := by
  by_contra hne
  wlog hlt : m < m' generalizing m m'
  · exact this h' h (fun heq => hne heq.symm) (by omega)
  have hstep : (m : ℚ) + 1 ≤ m' := by exact_mod_cast hlt
  have hlow := (abs_le.1 h.1).2
  have hhigh := (abs_le.1 h'.1).1
  -- Both are half a step away, so `m'` is the successor of `m` and both are even.
  have hm : z - m = 1 / 2 := by linarith
  have hm' : z - m' = -(1 / 2) := by linarith
  have heven := h.2 (by rw [hm]; norm_num)
  have heven' := h'.2 (by rw [hm']; norm_num)
  have hsucc : m' = m + 1 := by
    have : (m' : ℚ) = m + 1 := by linarith
    exact_mod_cast this
  omega

theorem roundsTo_roundDiv (n : ℕ) {d : ℕ} (hd : 0 < d) :
    RoundsTo (n / d : ℚ) (roundDiv n d) := by
  have hdq : (0 : ℚ) < d := by exact_mod_cast hd
  have hsplit : (n : ℚ) / d = (n / d : ℕ) + ((n % d : ℕ) : ℚ) / d := by
    rw [div_eq_iff hdq.ne', add_mul, div_mul_cancel₀ _ hdq.ne']
    exact_mod_cast (Nat.div_add_mod' n d).symm
  have hrem : ((n % d : ℕ) : ℚ) / d < 1 := by
    rw [div_lt_one hdq]
    exact_mod_cast Nat.mod_lt n hd
  have hrem0 : (0 : ℚ) ≤ ((n % d : ℕ) : ℚ) / d := by positivity
  unfold roundDiv
  simp only
  rw [hsplit]
  split
  · rename_i hlow
    apply RoundsTo.of_lt
    have : ((n % d : ℕ) : ℚ) / d < 1 / 2 := by
      rw [div_lt_div_iff₀ hdq (by norm_num)]
      have : ((2 * (n % d) : ℕ) : ℚ) < d := by exact_mod_cast hlow
      push_cast at this ⊢
      linarith
    rw [abs_lt]
    constructor <;> linarith
  split
  · rename_i hhigh
    apply RoundsTo.of_lt
    have : 1 / 2 < ((n % d : ℕ) : ℚ) / d := by
      rw [div_lt_div_iff₀ (by norm_num) hdq]
      have : ((d : ℕ) : ℚ) < (2 * (n % d) : ℕ) := by exact_mod_cast hhigh
      push_cast at this ⊢
      linarith
    push_cast at *
    rw [abs_lt]
    constructor <;> linarith
  · -- A tie: the even one of the two neighbours.
    rename_i hlow hhigh
    have htie : ((n % d : ℕ) : ℚ) / d = 1 / 2 := by
      rw [div_eq_div_iff hdq.ne' (by norm_num)]
      have : 2 * (n % d) = d := by omega
      have : ((2 * (n % d) : ℕ) : ℚ) = d := by exact_mod_cast this
      push_cast at this ⊢
      linarith
    rw [htie]
    rcases Nat.mod_two_eq_zero_or_one (n / d) with hq | hq
    · rw [hq]
      refine ⟨?_, fun _ => by omega⟩
      push_cast
      rw [abs_le]
      constructor <;> linarith
    · rw [hq]
      refine ⟨?_, fun _ => by omega⟩
      push_cast
      rw [abs_le]
      constructor <;> linarith

/-- `roundDiv` finds the rounding of the quotient. -/
theorem roundDiv_eq_iff {n d m : ℕ} (hd : 0 < d) :
    roundDiv n d = m ↔ RoundsTo (n / d : ℚ) m := by
  constructor
  · rintro rfl
    exact roundsTo_roundDiv n hd
  · exact fun h => (roundsTo_roundDiv n hd).unique h

/-! ## Binary logarithms -/

/-- A comparison with a power of two, in natural numbers and in rationals. -/
theorem two_pow_mul_le_iff {n d : ℕ} (hd : 0 < d) (k : ℤ) :
    d * 2 ^ k.toNat ≤ n * 2 ^ (-k).toNat ↔ (2 : ℚ) ^ k ≤ n / d := by
  have hdq : (0 : ℚ) < d := by exact_mod_cast hd
  have hpow := zpow_eq_div two_ne_zero k
  push_cast at hpow
  rw [hpow, div_le_div_iff₀ (by positivity) hdq, mul_comm (2 ^ k.toNat : ℚ)]
  exact_mod_cast Iff.rfl

/-- The binary logarithm of a quotient, rounded down. -/
theorem log2Quotient_spec {n d : ℕ} (hn : 0 < n) (hd : 0 < d) :
    (2 : ℚ) ^ log2Quotient n d ≤ n / d ∧ (n / d : ℚ) < 2 ^ (log2Quotient n d + 1) := by
  have hnq : (0 : ℚ) < n := by exact_mod_cast hn
  have hdq : (0 : ℚ) < d := by exact_mod_cast hd
  have hnlow : (2 : ℚ) ^ (n.log2 : ℤ) ≤ n := by
    rw [zpow_natCast]
    exact_mod_cast Nat.log2_self_le hn.ne'
  have hnhigh : (n : ℚ) < 2 ^ ((n.log2 : ℤ) + 1) := by
    rw [show ((n.log2 : ℤ) + 1) = ((n.log2 + 1 : ℕ) : ℤ) by push_cast; rfl, zpow_natCast]
    exact_mod_cast Nat.lt_log2_self
  have hdlow : (2 : ℚ) ^ (d.log2 : ℤ) ≤ d := by
    rw [zpow_natCast]
    exact_mod_cast Nat.log2_self_le hd.ne'
  have hdhigh : (d : ℚ) < 2 ^ ((d.log2 : ℤ) + 1) := by
    rw [show ((d.log2 : ℤ) + 1) = ((d.log2 + 1 : ℕ) : ℤ) by push_cast; rfl, zpow_natCast]
    exact_mod_cast Nat.lt_log2_self
  set k : ℤ := (n.log2 : ℤ) - d.log2 with hk
  have hhigh : (n / d : ℚ) < 2 ^ (k + 1) := by
    rw [div_lt_iff₀ hdq]
    calc (n : ℚ) < 2 ^ ((n.log2 : ℤ) + 1) := hnhigh
      _ = 2 ^ (k + 1) * 2 ^ (d.log2 : ℤ) := by
        rw [← zpow_add₀ two_ne_zero]
        congr 1
        omega
      _ ≤ 2 ^ (k + 1) * d := by gcongr
  have hlow : (2 : ℚ) ^ (k - 1) ≤ n / d := by
    rw [le_div_iff₀ hdq]
    calc (2 : ℚ) ^ (k - 1) * d ≤ 2 ^ (k - 1) * 2 ^ ((d.log2 : ℤ) + 1) := by gcongr
      _ = 2 ^ (n.log2 : ℤ) := by
        rw [← zpow_add₀ two_ne_zero]
        congr 1
        omega
      _ ≤ n := hnlow
  unfold log2Quotient
  simp only [← hk, two_pow_mul_le_iff hd]
  split
  · rename_i hle
    exact ⟨hle, hhigh⟩
  · rename_i hgt
    exact ⟨hlow, by simpa using hgt⟩

namespace Binary

/-! ## Exact values of magnitudes -/

/-- The exact value of a magnitude. -/
def Magnitude.toRat (x : Magnitude) : ℚ := x.significand * 2 ^ x.exponent

@[simp]
theorem Magnitude.toRat_mk (m : ℕ) (e : ℤ) : (⟨m, e⟩ : Magnitude).toRat = m * 2 ^ e := rfl

theorem Magnitude.num_div_den (x : Magnitude) : (x.num : ℚ) / x.den = x.toRat := by
  have hpow := zpow_eq_div two_ne_zero x.exponent
  push_cast at hpow
  rw [Magnitude.toRat, hpow, Magnitude.num, Magnitude.den]
  push_cast
  rw [mul_div_assoc]

namespace Format

variable {f : Format} {n d : ℕ}

/-- A significand and exponent in the form in which the format stores its values: only the smallest
exponent goes with a significand that has no leading one. -/
structure Canonical (f : Format) (x : Magnitude) : Prop where
  significand_lt : x.significand < 2 ^ f.precision
  leastExponent_le : f.leastExponent ≤ x.exponent
  le_significand : f.leastExponent < x.exponent → 2 ^ (f.precision - 1) ≤ x.significand

/-- The exponent that a quotient is rounded at. -/
def placeOf (f : Format) (n d : ℕ) : ℤ := max f.leastExponent (log2Quotient n d - f.precision + 1)

/-- The significand that a quotient is rounded to, before a carry is taken into the exponent. -/
def nearestAt (n d : ℕ) (e : ℤ) : ℕ := roundDiv (n * 2 ^ (-e).toNat) (d * 2 ^ e.toNat)

theorem round_of_pos (f : Format) (hn : 0 < n) (d : ℕ) :
    f.round n d = if nearestAt n d (f.placeOf n d) = 2 ^ f.precision
      then ⟨2 ^ (f.precision - 1), f.placeOf n d + 1⟩
      else ⟨nearestAt n d (f.placeOf n d), f.placeOf n d⟩ := by
  unfold round
  rw [if_neg hn.ne']
  rfl

theorem nearestAt_eq_iff (hd : 0 < d) {e : ℤ} {m : ℕ} :
    nearestAt n d e = m ↔ RoundsTo ((n / d : ℚ) / 2 ^ e) m := by
  unfold nearestAt
  rw [roundDiv_eq_iff (Nat.mul_pos hd (Nat.two_pow_pos _)), div_mul_two_pow]

/-- The carry does not change the value. -/
theorem toRat_round (hp : 0 < f.precision) (hn : 0 < n) (d : ℕ) :
    (f.round n d).toRat = nearestAt n d (f.placeOf n d) * 2 ^ f.placeOf n d := by
  rw [round_of_pos f hn]
  split
  · rename_i hcarry
    rw [hcarry, Magnitude.toRat_mk, zpow_add_one₀ two_ne_zero]
    obtain ⟨p, hp'⟩ : ∃ p, f.precision = p + 1 := ⟨f.precision - 1, by omega⟩
    rw [hp', Nat.add_sub_cancel]
    push_cast
    ring
  · rfl

/-- A rounded value lies at most half a place away from the quotient. -/
theorem abs_toRat_round_sub_le_half (hp : 0 < f.precision) (hn : 0 < n) (hd : 0 < d) :
    |(f.round n d).toRat - n / d| ≤ 2 ^ f.placeOf n d / 2 := by
  have hpos := two_zpow_pos (f.placeOf n d)
  have hnear := ((nearestAt_eq_iff hd).1 (rfl : nearestAt n d (f.placeOf n d) = _)).1
  rw [toRat_round hp hn, abs_sub_comm]
  have hscale : (n / d : ℚ) - nearestAt n d (f.placeOf n d) * 2 ^ f.placeOf n d
      = ((n / d : ℚ) / 2 ^ f.placeOf n d - nearestAt n d (f.placeOf n d)) * 2 ^ f.placeOf n d := by
    field_simp
  rw [hscale, abs_mul, abs_of_pos hpos]
  calc _ ≤ 1 / 2 * (2 : ℚ) ^ f.placeOf n d := by gcongr
    _ = 2 ^ f.placeOf n d / 2 := by ring

/-- Above the subnormal range the error is small relative to the quotient. -/
theorem abs_toRat_round_sub_le (hp : 0 < f.precision) (hn : 0 < n) (hd : 0 < d)
    (hnormal : (2 : ℚ) ^ (f.leastExponent + f.precision - 1) ≤ n / d) :
    |(f.round n d).toRat - n / d| ≤ 2 ^ (-f.precision : ℤ) * (n / d) := by
  obtain ⟨hlow, hhigh⟩ := log2Quotient_spec hn hd
  have hlog : f.leastExponent + f.precision - 1 < log2Quotient n d + 1 :=
    (zpow_lt_zpow_iff_right₀ one_lt_two).1 (hnormal.trans_lt hhigh)
  have hplace : f.placeOf n d = log2Quotient n d - f.precision + 1 := max_eq_right (by omega)
  refine (abs_toRat_round_sub_le_half hp hn hd).trans ?_
  rw [hplace]
  calc (2 : ℚ) ^ (log2Quotient n d - f.precision + 1) / 2
      = 2 ^ (-f.precision : ℤ) * 2 ^ log2Quotient n d := by
        rw [zpow_add_one₀ two_ne_zero, mul_div_cancel_right₀ _ two_ne_zero, ← zpow_add₀ two_ne_zero]
        congr 1
        ring
    _ ≤ 2 ^ (-f.precision : ℤ) * (n / d) := by gcongr

/-- A value that the format can hold is kept. -/
theorem toRat_round_of_exact (hp : 0 < f.precision) (hn : 0 < n) (hd : 0 < d) {s : ℕ} {t : ℤ}
    (hs : s < 2 ^ f.precision) (ht : f.leastExponent ≤ t) (heq : (n / d : ℚ) = s * 2 ^ t) :
    (f.round n d).toRat = n / d := by
  obtain ⟨hlow, -⟩ := log2Quotient_spec hn hd
  have hlt : (n / d : ℚ) < 2 ^ (f.precision + t : ℤ) := by
    rw [heq, zpow_add₀ two_ne_zero, zpow_natCast]
    have : (s : ℚ) < 2 ^ f.precision := by exact_mod_cast hs
    exact mul_lt_mul_of_pos_right this (two_zpow_pos t)
  have hlog : log2Quotient n d < f.precision + t :=
    (zpow_lt_zpow_iff_right₀ one_lt_two).1 (hlow.trans_lt hlt)
  have hplace : f.placeOf n d ≤ t := max_le ht (by omega)
  -- The place is no coarser than the last place of `s`, so the quotient is a whole number of places.
  have hnear : nearestAt n d (f.placeOf n d) = s * 2 ^ (t - f.placeOf n d).toNat := by
    rw [nearestAt_eq_iff hd]
    apply RoundsTo.of_lt
    have hcast : ((2 ^ (t - f.placeOf n d).toNat : ℕ) : ℚ) = 2 ^ (t - f.placeOf n d) := by
      rw [Nat.cast_pow, Nat.cast_ofNat, ← zpow_natCast, Int.toNat_of_nonneg (by omega)]
    rw [heq, Nat.cast_mul, hcast, zpow_sub₀ two_ne_zero, mul_div_assoc, sub_self]
    norm_num
  rw [toRat_round hp hn, hnear, heq, Nat.cast_mul, mul_assoc]
  congr 1
  rw [Nat.cast_pow, Nat.cast_ofNat, ← zpow_natCast, Int.toNat_of_nonneg (by omega),
    ← zpow_add₀ two_ne_zero]
  congr 1
  ring

/-- The exponent of a rounded quotient below `2 ^ k`. -/
theorem exponent_round_le (hn : 0 < n) (hd : 0 < d) {k : ℤ} (hlt : (n / d : ℚ) < 2 ^ k)
    (hk : f.leastExponent ≤ k - f.precision) :
    (f.round n d).exponent ≤ k - f.precision + 1 := by
  obtain ⟨hlow, -⟩ := log2Quotient_spec hn hd
  have hlog : log2Quotient n d < k := (zpow_lt_zpow_iff_right₀ one_lt_two).1 (hlow.trans_lt hlt)
  have hplace : f.placeOf n d ≤ k - f.precision := max_le hk (by omega)
  rw [round_of_pos f hn]
  split
  · change f.placeOf n d + 1 ≤ _
    omega
  · change f.placeOf n d ≤ _
    omega

/-- A quotient whose number of places of a magnitude rounds to its significand is rounded to that
magnitude.  A power of two is left out: its places are finer on one side. -/
theorem round_eq_of_roundsTo {x : Magnitude} (hx : f.Canonical x) (hp : 0 < f.precision)
    (hpow : x.significand = 2 ^ (f.precision - 1) → x.exponent = f.leastExponent)
    (hn : 0 < n) (hd : 0 < d) (hz : RoundsTo ((n / d : ℚ) / 2 ^ x.exponent) x.significand) :
    f.round n d = x := by
  obtain ⟨m, q⟩ := x
  simp only at hpow hz
  have hq := two_zpow_pos q
  have hmlt : m < 2 ^ f.precision := hx.significand_lt
  have hle : f.leastExponent ≤ q := hx.leastExponent_le
  obtain ⟨hlow, hhigh⟩ := log2Quotient_spec hn hd
  obtain ⟨hbelow, habove⟩ := abs_le.1 hz.1
  have hupper : (n / d : ℚ) < 2 ^ (f.precision + q : ℤ) := by
    have hm : (m : ℚ) + 1 ≤ 2 ^ f.precision := by exact_mod_cast hmlt
    rw [zpow_add₀ two_ne_zero, zpow_natCast, ← div_lt_iff₀ hq]
    linarith
  have hlog : log2Quotient n d < f.precision + q :=
    (zpow_lt_zpow_iff_right₀ one_lt_two).1 (hlow.trans_lt hupper)
  have hplace : f.placeOf n d = q := by
    rcases eq_or_lt_of_le hle with heq | hlt
    · rw [placeOf, heq]
      exact max_eq_left (by omega)
    · have hlead : 2 ^ (f.precision - 1) < m := by
        have hne : m ≠ 2 ^ (f.precision - 1) := fun h => by have := hpow h; omega
        have := hx.le_significand hlt
        change 2 ^ (f.precision - 1) ≤ m at this
        omega
      have hlower : (2 : ℚ) ^ (f.precision - 1 + q : ℤ) ≤ n / d := by
        have hm : ((2 ^ (f.precision - 1) : ℕ) : ℚ) + 1 ≤ m := by exact_mod_cast hlead
        have hcast : (2 : ℚ) ^ (f.precision - 1 : ℤ) = ((2 ^ (f.precision - 1) : ℕ) : ℚ) := by
          rw [Nat.cast_pow, Nat.cast_ofNat, ← zpow_natCast, Nat.cast_sub hp, Nat.cast_one]
        rw [zpow_add₀ two_ne_zero, hcast, ← le_div_iff₀ hq]
        linarith
      have := (zpow_lt_zpow_iff_right₀ one_lt_two).1 (hlower.trans_lt hhigh)
      exact le_antisymm (max_le hle (by omega)) (le_max_of_le_right (by omega))
  have hnear : nearestAt n d (f.placeOf n d) = m := by
    rw [hplace, nearestAt_eq_iff hd]
    exact hz
  rw [round_of_pos f hn, hnear, if_neg hmlt.ne, hplace]

end Format
end Binary
end ModelPreview
