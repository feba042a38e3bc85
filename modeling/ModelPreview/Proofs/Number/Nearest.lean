import Mathlib
import ModelPreview.Proofs.Number.Rounding

/-!
# The nearest value of a format

Rounding a quotient depends on the quotient alone, so a format has a nearest value for every rational
number that is not negative.  A larger number never has a smaller nearest value, and what the format
can hold is its own nearest value.  Hence whatever lies below a value of the format is rounded to
something that does, too.  The values of a format lie at least one last place apart, and numbers below
a value are rounded by no more than half a last place of the value.

Main definitions:

- `Binary.Format.place`: the exponent that a number is rounded at.
- `Binary.Format.roundRat` and `Binary.Format.nearest`: the nearest value.

Main results:

- `Binary.Format.round_eq_roundRat`: rounding depends on a quotient only.
- `Binary.Format.nearest_mono` and `Binary.Format.nearest_toRat`: nearest values are ordered, and
  values of the format stay.
- `Binary.Format.nearest_natCast`: short natural numbers are values of the format.
- `Binary.Format.abs_nearest_sub_le` and `Binary.Format.Canonical.add_le_of_lt`: errors and gaps.
- `Binary.Format.canonical_roundRat`: what rounding finds has the form in which the format stores it.
-/

namespace ModelPreview

/-! ## Roundings to an integer -/

theorem RoundsTo.le_of_le {z : ℚ} {m n : ℕ} (h : RoundsTo z m) (hz : z ≤ n) : m ≤ n := by
  by_contra hlt
  have hstep : (n : ℚ) + 1 ≤ m := by exact_mod_cast not_le.1 hlt
  linarith [(abs_le.1 h.1).1]

theorem RoundsTo.le_of_ge {z : ℚ} {m n : ℕ} (h : RoundsTo z m) (hz : n ≤ z) : n ≤ m := by
  by_contra hlt
  have hstep : (m : ℚ) + 1 ≤ n := by exact_mod_cast not_le.1 hlt
  linarith [(abs_le.1 h.1).2]

/-- A larger number is not rounded to a smaller one. -/
theorem RoundsTo.mono {z z' : ℚ} {m m' : ℕ} (h : RoundsTo z m) (h' : RoundsTo z' m')
    (hz : z ≤ z') : m ≤ m' := by
  by_contra hlt
  have hstep : (m' : ℚ) + 1 ≤ m := by exact_mod_cast not_le.1 hlt
  have hlow := (abs_le.1 h.1).1
  have hhigh := (abs_le.1 h'.1).2
  -- The two numbers can only be equal, halfway between the two roundings.
  obtain rfl : z = z' := by linarith
  exact hlt (h.unique h').le

namespace Binary

theorem Magnitude.toRat_nonneg (x : Magnitude) : 0 ≤ x.toRat :=
  mul_nonneg (Nat.cast_nonneg _) (two_zpow_pos _).le

theorem Magnitude.toRat_pos {x : Magnitude} (h : 0 < x.significand) : 0 < x.toRat :=
  mul_pos (Nat.cast_pos.2 h) (two_zpow_pos _)

theorem Magnitude.toRat_eq_zero_iff {x : Magnitude} : x.toRat = 0 ↔ x.significand = 0 := by
  rw [Magnitude.toRat, mul_eq_zero, Nat.cast_eq_zero, or_iff_left (two_zpow_pos _).ne']

namespace Format

variable {f : Format} {p q : ℚ} {n d : ℕ}

/-! ## Places -/

/-- The exponent that a number is rounded at. -/
def place (f : Format) (q : ℚ) : ℤ := max f.leastExponent (Int.log 2 q - f.precision + 1)

theorem log2Quotient_eq_log (hn : 0 < n) (hd : 0 < d) : log2Quotient n d = Int.log 2 (n / d : ℚ) := by
  have hq : (0 : ℚ) < n / d := by positivity
  obtain ⟨hlow, hhigh⟩ := log2Quotient_spec hn hd
  have hlow' : (2 : ℚ) ^ Int.log 2 (n / d : ℚ) ≤ n / d := Int.zpow_log_le_self one_lt_two hq
  have hhigh' : (n / d : ℚ) < 2 ^ (Int.log 2 (n / d : ℚ) + 1) :=
    Int.lt_zpow_succ_log_self one_lt_two _
  have hle := (zpow_lt_zpow_iff_right₀ one_lt_two).1 (hlow.trans_lt hhigh')
  have hge := (zpow_lt_zpow_iff_right₀ one_lt_two).1 (hlow'.trans_lt hhigh)
  omega

theorem placeOf_eq_place (hn : 0 < n) (hd : 0 < d) : f.placeOf n d = f.place (n / d) := by
  rw [placeOf, place, log2Quotient_eq_log hn hd]

theorem place_mono (hp : 0 < p) (h : p ≤ q) : f.place p ≤ f.place q :=
  max_le_max_left _ (by have := Int.log_mono_right (b := 2) hp h; omega)

theorem leastExponent_le_place : f.leastExponent ≤ f.place q := le_max_left _ _

/-- The place of a number below a power of two. -/
theorem place_le_of_lt (hq : 0 < q) {k : ℤ} (h : q < 2 ^ (f.precision + k : ℤ))
    (hk : f.leastExponent ≤ k) : f.place q ≤ k := by
  have hlow : (2 : ℚ) ^ Int.log 2 q ≤ q := Int.zpow_log_le_self one_lt_two hq
  have hlog := (zpow_lt_zpow_iff_right₀ one_lt_two).1 (hlow.trans_lt h)
  exact max_le hk (by omega)

/-- The place of a number that is at least a power of two. -/
theorem le_place_of_le {k : ℤ} (h : 2 ^ (f.precision - 1 + k : ℤ) ≤ q) : k ≤ f.place q := by
  have hhigh : q < 2 ^ (Int.log 2 q + 1) := Int.lt_zpow_succ_log_self one_lt_two q
  have hlog := (zpow_lt_zpow_iff_right₀ one_lt_two).1 (h.trans_lt hhigh)
  exact le_max_of_le_right (by omega)

/-- At its place a number has no more digits than the format. -/
theorem div_place_lt (q : ℚ) : q / 2 ^ f.place q < 2 ^ f.precision := by
  have hhigh : q < 2 ^ (Int.log 2 q + 1) := Int.lt_zpow_succ_log_self one_lt_two q
  rw [div_lt_iff₀ (two_zpow_pos _), ← zpow_natCast, ← zpow_add₀ two_ne_zero]
  refine hhigh.trans_le (zpow_le_zpow_right₀ one_le_two ?_)
  have hplace : Int.log 2 q - f.precision + 1 ≤ f.place q := le_max_right _ _
  omega

/-- Above the least exponent, a number has as many digits as the format at its place. -/
theorem le_div_place (hp : 0 < f.precision) (hq : 0 < q) (h : f.leastExponent < f.place q) :
    2 ^ (f.precision - 1) ≤ q / 2 ^ f.place q := by
  have hlow : (2 : ℚ) ^ Int.log 2 q ≤ q := Int.zpow_log_le_self one_lt_two hq
  rw [le_div_iff₀ (two_zpow_pos _), ← zpow_natCast, ← zpow_add₀ two_ne_zero]
  refine le_trans (zpow_le_zpow_right₀ one_le_two ?_) hlow
  have hplace : f.place q ≤ Int.log 2 q - f.precision + 1 := by
    rcases le_max_iff.1 (le_refl (f.place q)) with hle | hle
    · exact absurd hle (not_le.2 h)
    · exact hle
  omega

/-! ## Nearest values -/

/-- A number that is not negative, rounded to a magnitude. -/
def roundRat (f : Format) (q : ℚ) : Magnitude := f.round q.num.toNat q.den

/-- The nearest value to a number that is not negative. -/
def nearest (f : Format) (q : ℚ) : ℚ := (f.roundRat q).toRat

theorem num_toNat_div_den (hq : 0 ≤ q) : (q.num.toNat : ℚ) / q.den = q := by
  rw [← Int.cast_natCast, Int.toNat_of_nonneg (Rat.num_nonneg.2 hq), Rat.num_div_den]

@[simp]
theorem nearest_zero : f.nearest 0 = 0 := by
  simp [nearest, roundRat, round]

theorem roundsTo_nearestAt (hq : 0 ≤ q) (e : ℤ) :
    RoundsTo (q / 2 ^ e) (nearestAt q.num.toNat q.den e) := by
  have hnear := (nearestAt_eq_iff q.den_pos).1 (rfl : nearestAt q.num.toNat q.den e = _)
  rwa [num_toNat_div_den hq] at hnear

theorem placeOf_num_den (hq : 0 < q) : f.placeOf q.num.toNat q.den = f.place q := by
  rw [placeOf_eq_place (Int.lt_toNat.2 (Rat.num_pos.2 hq)) q.den_pos, num_toNat_div_den hq.le]

/-- Rounding depends on a quotient only. -/
theorem round_eq_roundRat (hd : 0 < d) (n : ℕ) : f.round n d = f.roundRat (n / d) := by
  rcases Nat.eq_zero_or_pos n with rfl | hn
  · simp [roundRat, round]
  · have hq : (0 : ℚ) < n / d := by positivity
    have hnear (e : ℤ) : nearestAt n d e = nearestAt (n / d : ℚ).num.toNat (n / d : ℚ).den e :=
      (nearestAt_eq_iff hd).2 (roundsTo_nearestAt hq.le e)
    rw [roundRat, round_of_pos f hn, round_of_pos f (Int.lt_toNat.2 (Rat.num_pos.2 hq)),
      placeOf_eq_place hn hd, placeOf_num_den hq, hnear]

/-- Rounding finds the nearest integer at the place of a number, and may carry. -/
theorem exists_roundRat_eq (hq : 0 < q) : ∃ m, RoundsTo (q / 2 ^ f.place q) m ∧
    f.roundRat q = if m = 2 ^ f.precision then ⟨2 ^ (f.precision - 1), f.place q + 1⟩
      else ⟨m, f.place q⟩ := by
  refine ⟨_, roundsTo_nearestAt hq.le _, ?_⟩
  rw [roundRat, round_of_pos f (Int.lt_toNat.2 (Rat.num_pos.2 hq)), placeOf_num_den hq]

theorem exists_nearest_eq (hp : 0 < f.precision) (hq : 0 < q) :
    ∃ m, RoundsTo (q / 2 ^ f.place q) m ∧ f.nearest q = m * 2 ^ f.place q := by
  refine ⟨_, roundsTo_nearestAt hq.le _, ?_⟩
  rw [nearest, roundRat, toRat_round hp (Int.lt_toNat.2 (Rat.num_pos.2 hq)), placeOf_num_den hq]

theorem nearest_nonneg : 0 ≤ f.nearest q := Magnitude.toRat_nonneg _

/-- A larger number does not have a smaller nearest value. -/
theorem nearest_mono (hp : 0 < f.precision) (hq : 0 ≤ p) (h : p ≤ q) :
    f.nearest p ≤ f.nearest q := by
  rcases hq.eq_or_lt with rfl | hpos
  · exact nearest_zero.trans_le nearest_nonneg
  obtain ⟨m, hm, hnearest⟩ := exists_nearest_eq hp hpos
  obtain ⟨m', hm', hnearest'⟩ := exists_nearest_eq hp (hpos.trans_le h)
  rw [hnearest, hnearest']
  have hunit := two_zpow_pos (f.place p)
  have hunit' := two_zpow_pos (f.place q)
  rcases (place_mono (f := f) hpos h).eq_or_lt with hsame | hlt
  · rw [hsame] at hm hunit ⊢
    have hle : m ≤ m' := hm.mono hm' (by gcongr)
    gcongr
  · -- A power of two lies between the two numbers, and it is a whole number of both places.
    have hlow : 2 ^ (f.precision - 1) ≤ m' := by
      refine hm'.le_of_ge ?_
      push_cast
      exact le_div_place hp (hpos.trans_le h) (leastExponent_le_place.trans_lt hlt)
    have hhigh : m ≤ 2 ^ f.precision := by
      refine hm.le_of_le ?_
      push_cast
      exact (div_place_lt p).le
    calc (m : ℚ) * 2 ^ f.place p ≤ 2 ^ f.precision * 2 ^ f.place p := by
          gcongr
          exact_mod_cast hhigh
      _ = 2 ^ (f.precision - 1) * 2 ^ (f.place p + 1) := by
          rw [zpow_add_one₀ two_ne_zero]
          obtain ⟨k, hk⟩ : ∃ k, f.precision = k + 1 := ⟨f.precision - 1, by omega⟩
          rw [hk, Nat.add_sub_cancel]
          ring
      _ ≤ 2 ^ (f.precision - 1) * 2 ^ f.place q := by
          gcongr
          · exact one_le_two
          · omega
      _ ≤ m' * 2 ^ f.place q := by
          gcongr
          exact_mod_cast hlow

variable {x y : Magnitude}

theorem Canonical.toRat_lt (hx : f.Canonical x) : x.toRat < 2 ^ (f.precision + x.exponent : ℤ) := by
  rw [Magnitude.toRat, zpow_add₀ two_ne_zero, zpow_natCast]
  have hlt : (x.significand : ℚ) < 2 ^ f.precision := by exact_mod_cast hx.significand_lt
  exact mul_lt_mul_of_pos_right hlt (two_zpow_pos _)

theorem Canonical.le_toRat (hp : 0 < f.precision) (hx : f.Canonical x)
    (h : f.leastExponent < x.exponent) : 2 ^ (f.precision - 1 + x.exponent : ℤ) ≤ x.toRat := by
  have hcast : (2 : ℚ) ^ (f.precision - 1 : ℤ) = ((2 ^ (f.precision - 1) : ℕ) : ℚ) := by
    rw [Nat.cast_pow, Nat.cast_ofNat, ← zpow_natCast, Nat.cast_sub hp, Nat.cast_one]
  have hle : ((2 ^ (f.precision - 1) : ℕ) : ℚ) ≤ x.significand := by
    exact_mod_cast hx.le_significand h
  rw [Magnitude.toRat, zpow_add₀ two_ne_zero, hcast]
  exact mul_le_mul_of_nonneg_right hle (two_zpow_pos _).le

/-- A value of the format is its own nearest value. -/
theorem nearest_toRat (hp : 0 < f.precision) (hx : f.Canonical x) : f.nearest x.toRat = x.toRat := by
  rcases Nat.eq_zero_or_pos x.num with hzero | hpos
  · have hvalue := x.num_div_den
    rw [hzero, Nat.cast_zero, zero_div] at hvalue
    rw [← hvalue, nearest_zero]
  · rw [← Magnitude.num_div_den, nearest, ← round_eq_roundRat x.den_pos]
    exact toRat_round_of_exact hp hpos x.den_pos hx.significand_lt hx.leastExponent_le
      x.num_div_den

/-- A natural number with no more digits than the format is a value, and so is the next one. -/
theorem nearest_natCast (hp : 0 < f.precision) (hleast : f.leastExponent ≤ 0)
    (hn : n ≤ 2 ^ f.precision) : f.nearest n = n := by
  rcases Nat.eq_zero_or_pos n with rfl | hpos
  · rw [Nat.cast_zero, nearest_zero]
  suffices hexact : (f.round n 1).toRat = (n : ℚ) / (1 : ℕ) by
    rwa [round_eq_roundRat one_pos, Nat.cast_one, div_one] at hexact
  rcases hn.lt_or_eq with hlt | rfl
  · exact toRat_round_of_exact hp hpos one_pos (t := 0) hlt hleast (by simp)
  · obtain ⟨k, hk⟩ : ∃ k, f.precision = k + 1 := ⟨f.precision - 1, by omega⟩
    rw [hk] at hpos ⊢
    refine toRat_round_of_exact hp hpos one_pos (s := 2 ^ k) (t := 1) ?_ (by omega) ?_
    · rw [hk]
      exact Nat.pow_lt_pow_right one_lt_two k.lt_succ_self
    · push_cast
      ring

/-- What lies below a value of the format is not rounded beyond it. -/
theorem nearest_le (hp : 0 < f.precision) (hx : f.Canonical x) (hq : 0 ≤ q) (h : q ≤ x.toRat) :
    f.nearest q ≤ x.toRat :=
  (nearest_mono hp hq h).trans_eq (nearest_toRat hp hx)

/-- What lies above a value of the format is not rounded below it. -/
theorem le_nearest (hp : 0 < f.precision) (hx : f.Canonical x) (h : x.toRat ≤ q) :
    x.toRat ≤ f.nearest q :=
  (nearest_toRat hp hx).symm.trans_le (nearest_mono hp x.toRat_nonneg h)

/-! ## Errors and gaps -/

/-- A number below a value of the format is rounded by no more than half a last place of it. -/
theorem abs_nearest_sub_le (hp : 0 < f.precision) (hx : f.Canonical x) (hq : 0 ≤ q)
    (h : q ≤ x.toRat) : |f.nearest q - q| ≤ 2 ^ x.exponent / 2 := by
  have hunit := two_zpow_pos x.exponent
  rcases hq.eq_or_lt with rfl | hpos
  · rw [nearest_zero, sub_zero, abs_zero]
    positivity
  obtain ⟨m, hm, hnearest⟩ := exists_nearest_eq hp hpos
  have hplace : f.place q ≤ x.exponent :=
    place_le_of_lt hpos (h.trans_lt hx.toRat_lt) hx.leastExponent_le
  have hunit' := two_zpow_pos (f.place q)
  have hscale : f.nearest q - q = -(q / 2 ^ f.place q - m) * 2 ^ f.place q := by
    rw [hnearest]
    field_simp
    ring
  rw [hscale, abs_mul, abs_neg, abs_of_pos hunit']
  calc |q / 2 ^ f.place q - m| * 2 ^ f.place q ≤ 1 / 2 * 2 ^ x.exponent := by
        gcongr
        · exact hm.1
        · exact one_le_two
    _ = 2 ^ x.exponent / 2 := by ring

/-- A value of the format with a greater exponent is greater. -/
theorem Canonical.toRat_lt_of_exponent_lt (hp : 0 < f.precision) (hx : f.Canonical x)
    (hy : f.Canonical y) (h : x.exponent < y.exponent) : x.toRat < y.toRat := by
  have hlow := hy.le_toRat hp (hx.leastExponent_le.trans_lt h)
  refine hx.toRat_lt.trans_le (le_trans (zpow_le_zpow_right₀ one_le_two ?_) hlow)
  omega

/-- The format has one form for every value. -/
theorem Canonical.eq_of_toRat_eq (hp : 0 < f.precision) (hx : f.Canonical x) (hy : f.Canonical y)
    (h : x.toRat = y.toRat) : x = y := by
  have hexponent : x.exponent = y.exponent := by
    rcases lt_trichotomy x.exponent y.exponent with hlt | heq | hgt
    · exact absurd h (hx.toRat_lt_of_exponent_lt hp hy hlt).ne
    · exact heq
    · exact absurd h (hy.toRat_lt_of_exponent_lt hp hx hgt).ne'
  have hsignificand : x.significand = y.significand := by
    rw [Magnitude.toRat, Magnitude.toRat, hexponent] at h
    exact_mod_cast mul_right_cancel₀ (two_zpow_pos _).ne' h
  cases x
  cases y
  exact Magnitude.mk.injEq .. ▸ ⟨hsignificand, hexponent⟩

/-- The next value of the format is at least one last place away. -/
theorem Canonical.add_le_of_lt (hp : 0 < f.precision) (hx : f.Canonical x) (hy : f.Canonical y)
    (h : x.toRat < y.toRat) : x.toRat + 2 ^ x.exponent ≤ y.toRat := by
  have hunit := two_zpow_pos x.exponent
  have hle : x.exponent ≤ y.exponent := by
    by_contra hlt
    exact lt_asymm h (hy.toRat_lt_of_exponent_lt hp hx (not_le.1 hlt))
  -- Both values are whole numbers of the last place of the smaller one.
  obtain ⟨k, hk⟩ := Int.le.dest hle
  have hvalue : y.toRat = ((y.significand * 2 ^ k : ℕ) : ℚ) * 2 ^ x.exponent := by
    rw [Magnitude.toRat, ← hk, zpow_add₀ two_ne_zero, zpow_natCast]
    push_cast
    ring
  rw [hvalue, Magnitude.toRat] at h ⊢
  have hlt : x.significand < y.significand * 2 ^ k := by
    exact_mod_cast lt_of_mul_lt_mul_right h hunit.le
  have hstep : (x.significand : ℚ) + 1 ≤ ((y.significand * 2 ^ k : ℕ) : ℚ) := by
    exact_mod_cast hlt
  calc (x.significand : ℚ) * 2 ^ x.exponent + 2 ^ x.exponent
      = (x.significand + 1) * 2 ^ x.exponent := by ring
    _ ≤ _ := by gcongr

/-! ## The form of rounded values -/

/-- What rounding finds has the form in which the format stores it. -/
theorem canonical_roundRat (hp : 0 < f.precision) (hq : 0 ≤ q) : f.Canonical (f.roundRat q) := by
  rcases hq.eq_or_lt with rfl | hpos
  · exact ⟨Nat.two_pow_pos _, le_rfl, fun h => absurd h (lt_irrefl _)⟩
  obtain ⟨m, hm, hround⟩ := exists_roundRat_eq (f := f) hpos
  have hhigh : m ≤ 2 ^ f.precision := by
    refine hm.le_of_le ?_
    push_cast
    exact (div_place_lt q).le
  rw [hround]
  split
  · exact ⟨Nat.pow_lt_pow_right one_lt_two (by omega),
      leastExponent_le_place.trans (Int.le_add_one le_rfl), fun _ => le_rfl⟩
  · rename_i hcarry
    refine ⟨lt_of_le_of_ne hhigh hcarry, leastExponent_le_place, fun hlt => ?_⟩
    refine hm.le_of_ge ?_
    push_cast
    exact le_div_place hp hpos hlt

/-- A value of the format is its own nearest value also in its form. -/
theorem roundRat_toRat (hp : 0 < f.precision) (hx : f.Canonical x) : f.roundRat x.toRat = x :=
  (canonical_roundRat hp x.toRat_nonneg).eq_of_toRat_eq hp hx (nearest_toRat hp hx)

/-- A number that is not too large has a nearest value whose exponent is not too large. -/
theorem exponent_roundRat_le (hq : 0 ≤ q) {k : ℤ} (hlt : q < 2 ^ k)
    (hk : f.leastExponent ≤ k - f.precision) : (f.roundRat q).exponent ≤ k - f.precision + 1 := by
  rcases hq.eq_or_lt with rfl | hpos
  · exact hk.trans (Int.le_add_one le_rfl)
  · refine exponent_round_le (Int.lt_toNat.2 (Rat.num_pos.2 hpos)) q.den_pos ?_ hk
    rwa [num_toNat_div_den hq]

end Format
end Binary
end ModelPreview
