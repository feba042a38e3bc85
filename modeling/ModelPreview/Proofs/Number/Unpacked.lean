import Mathlib
import ModelPreview.Proofs.Number.Nearest
import ModelPreview.Proofs.Number.Stored

/-!
# Rounding the results of operations

Operations on 32-bit values compute the first digits of their exact result, together with two bits
that tell how the digits behind them compare with nothing and with one half.  This is kept up when
digits are dropped one by one, and it is all that is needed in the end to round to the nearest value.
So every operation that starts with enough digits finds the nearest value, in the form in which it
is stored.

Main definitions:

- `Describes`: digits and bits describe a number.
- `unpacked`: a magnitude with its sign, as operations see it.

Main results:

- `roundWithAccuracy_eq` and `round_eq`: digits are rounded to the nearest value.
- `unpack_pack_unpacked`: what is stored is read again.
-/

namespace ModelPreview

open Float.Model (UnpackedFloat totalExponent)
open Float.Model.Format (binary32)
open Float.Model.UnpackedFloat
open Binary (Magnitude single)

/-! ## Digits and the bits behind them -/

/-- The digits are those of a number in front of its point, and the two bits behind them tell where
the rest lies: at zero, below one half, at one half, or above. -/
def Describes (em : ExtendedMantissa) (z : ℚ) : Prop :=
  match em.roundBit, em.stickyBit with
  | false, false => z = em.mantissa
  | false, true => em.mantissa < z ∧ z < em.mantissa + 1 / 2
  | true, false => z = em.mantissa + 1 / 2
  | true, true => em.mantissa + 1 / 2 < z ∧ z < em.mantissa + 1

theorem describes_exact (m : ℕ) : Describes (.ofMantissaAndAccuracy m .exact) m := rfl

theorem Describes.bounds {em : ExtendedMantissa} {z : ℚ} (h : Describes em z) :
    em.mantissa ≤ z ∧ z < em.mantissa + 1 := by
  obtain ⟨m, roundBit, stickyBit⟩ := em
  cases roundBit <;> cases stickyBit <;> simp only [Describes] at h ⊢ <;> constructor <;> linarith

/-- Dropping a digit halves the number. -/
theorem Describes.shiftRightOne {em : ExtendedMantissa} {z : ℚ} (h : Describes em z) :
    Describes em.shiftRightOne (z / 2) := by
  obtain ⟨m, roundBit, stickyBit⟩ := em
  have hdiv : (m : ℚ) = 2 * (m / 2 : ℕ) + (m % 2 : ℕ) := by exact_mod_cast (Nat.div_add_mod m 2).symm
  rcases Nat.mod_two_eq_zero_or_one m with hmod | hmod <;> rw [hmod] at hdiv <;>
    cases roundBit <;> cases stickyBit <;>
    simp only [Describes, ExtendedMantissa.shiftRightOne, hmod, bne_self_eq_false, Nat.reduceBNe,
      Bool.or_self, Bool.or_true, Bool.or_false] at h ⊢ <;>
    push_cast at hdiv <;> first | linarith | (constructor <;> linarith)

theorem Describes.shiftRight {em : ExtendedMantissa} {z : ℚ} (h : Describes em z) (k : ℕ) :
    Describes (em >>> k) (z / 2 ^ k) := by
  change Describes (k.repeat ExtendedMantissa.shiftRightOne em) _
  induction k with
  | zero => simpa [Nat.repeat] using h
  | succ k ih =>
    rw [Nat.repeat, pow_succ, ← div_div]
    exact ih.shiftRightOne

/-- The bits tell how to round. -/
theorem Describes.roundsTo {em : ExtendedMantissa} {z : ℚ} (h : Describes em z) :
    RoundsTo z em.roundedMantissa := by
  obtain ⟨m, roundBit, stickyBit⟩ := em
  cases roundBit <;> cases stickyBit <;>
    simp only [Describes, ExtendedMantissa.roundedMantissa, ExtendedMantissa.accuracy,
      Accuracy.roundToNearestEven] at h ⊢
  case false.false =>
    refine .of_lt ?_
    rw [h, sub_self]
    norm_num
  case false.true =>
    refine .of_lt ?_
    rw [abs_lt]
    constructor <;> linarith
  case true.true =>
    refine .of_lt ?_
    push_cast
    rw [abs_lt]
    constructor <;> linarith
  case true.false =>
    -- Halfway, the even neighbour is taken.
    rcases Nat.mod_two_eq_zero_or_one m with hmod | hmod <;> rw [hmod]
    · refine ⟨?_, fun _ => by omega⟩
      rw [h, abs_le]
      push_cast
      constructor <;> linarith
    · refine ⟨?_, fun _ => by omega⟩
      rw [h, abs_le]
      push_cast
      constructor <;> linarith

/-! ## Rounding -/

/-- A magnitude with its sign, as operations see it. -/
def unpacked (s : Sign) (x : Magnitude) : UnpackedFloat :=
  if h : x.significand = 0 then .zero s
  else .finite s x.significand x.exponent (Nat.pos_of_ne_zero h)

variable {m : ℕ} {e : ℤ} {acc : Accuracy} {q : ℚ}

theorem single_precision_pos : 0 < single.precision := by decide

/-- The number of digits of a number and of the ones in front of its point. -/
theorem totalExponent_eq (hdigits : Describes (.ofMantissaAndAccuracy m acc) (q / 2 ^ e))
    (hm : 0 < m) : totalExponent m e = Int.log 2 q + 1 := by
  have hunit := two_zpow_pos e
  have hmantissa : (ExtendedMantissa.ofMantissaAndAccuracy m acc).mantissa = m := by
    unfold ExtendedMantissa.ofMantissaAndAccuracy
    split <;> rfl
  obtain ⟨hlow, hhigh⟩ := hdigits.bounds
  rw [hmantissa, le_div_iff₀ hunit] at hlow
  rw [hmantissa, div_lt_iff₀ hunit] at hhigh
  have hq : 0 < q := lt_of_lt_of_le (by positivity) hlow
  have hmlow : ((2 ^ m.log2 : ℕ) : ℚ) ≤ m := by exact_mod_cast Nat.log2_self_le hm.ne'
  have hmhigh : (m : ℚ) + 1 ≤ ((2 ^ (m.log2 + 1) : ℕ) : ℚ) := by exact_mod_cast Nat.lt_log2_self
  have hqlow : (2 : ℚ) ^ (m.log2 + e : ℤ) ≤ q := by
    rw [zpow_add₀ two_ne_zero, zpow_natCast]
    push_cast at hmlow
    exact (mul_le_mul_of_nonneg_right hmlow hunit.le).trans hlow
  have hqhigh : q < 2 ^ (m.log2 + e + 1 : ℤ) := by
    rw [show (m.log2 + e + 1 : ℤ) = ((m.log2 + 1 : ℕ) : ℤ) + e by push_cast; ring,
      zpow_add₀ two_ne_zero, zpow_natCast]
    push_cast at hmhigh
    exact hhigh.trans_le (mul_le_mul_of_nonneg_right hmhigh hunit.le)
  have hlog := (zpow_lt_zpow_iff_right₀ one_lt_two).1
    (hqlow.trans_lt (Int.lt_zpow_succ_log_self one_lt_two q))
  have hlog' := (zpow_lt_zpow_iff_right₀ one_lt_two).1
    ((Int.zpow_log_le_self one_lt_two hq).trans_lt hqhigh)
  unfold totalExponent
  push_cast at *
  omega

/-- The digits tell at which place the number is rounded. -/
theorem targetExponent_eq (hdigits : Describes (.ofMantissaAndAccuracy m acc) (q / 2 ^ e))
    (hm : 0 < m) : binary32.targetExponent (totalExponent m e) = single.place q := by
  rw [totalExponent_eq hdigits hm]
  change max (Int.log 2 q + 1 - 24) (-149) = max (-149) (Int.log 2 q - 24 + 1)
  omega

/-- So do missing digits, if the number is smaller than all values. -/
theorem targetExponent_zero (hdigits : Describes (.ofMantissaAndAccuracy 0 acc) (q / 2 ^ e))
    (hq : 0 < q) (he : e ≤ -149) : binary32.targetExponent (totalExponent 0 e) = single.place q := by
  have hmantissa : (ExtendedMantissa.ofMantissaAndAccuracy 0 acc).mantissa = 0 := by
    unfold ExtendedMantissa.ofMantissaAndAccuracy
    split <;> rfl
  have hhigh := hdigits.bounds.2
  rw [hmantissa, Nat.cast_zero, zero_add, div_lt_one (two_zpow_pos e)] at hhigh
  have hlog := (zpow_lt_zpow_iff_right₀ one_lt_two).1
    ((Int.zpow_log_le_self one_lt_two hq).trans_lt hhigh)
  change max (((0 : ℕ) : ℤ) + 1 + e - 24) (-149) = max (-149) (Int.log 2 q - 24 + 1)
  omega

/-- A rounded number of digits may be one too many, and then the last one is zero. -/
theorem shiftToTargetExponent_carry {n : ℕ} (hn : n ≤ 2 ^ 24) (he : -149 ≤ e) :
    shiftToTargetExponent binary32 n e .exact =
      if n = 2 ^ 24 then (⟨2 ^ 23, false, false⟩, e + 1) else (⟨n, false, false⟩, e) := by
  have htarget : binary32.targetExponent (totalExponent n e) = max (n.log2 + 1 + e - 24) (-149) := rfl
  split
  · rename_i hcarry
    have hlog : (n.log2 : ℤ) = 24 := by
      rw [hcarry, Nat.log2_two_pow]
      rfl
    have hamount : (max ((n.log2 : ℤ) + 1 + e - 24) (-149) - e).toNat = 1 := by omega
    simp only [shiftToTargetExponent, shiftToExponent, htarget, hamount]
    rw [hcarry]
    rfl
  · rename_i hcarry
    have hlog : n.log2 < 24 := by
      rcases Nat.eq_zero_or_pos n with rfl | hpos
      · decide
      · exact (Nat.log2_lt hpos.ne').2 (lt_of_le_of_ne hn hcarry)
    have hamount : (max ((n.log2 : ℤ) + 1 + e - 24) (-149) - e).toNat = 0 := by omega
    simp only [shiftToTargetExponent, shiftToExponent, htarget, hamount, Nat.cast_zero, add_zero]
    rfl

/-- Digits are rounded to the nearest value. -/
theorem roundWithAccuracy_eq (s : Sign) (hq : 0 < q)
    (hdigits : Describes (.ofMantissaAndAccuracy m acc) (q / 2 ^ e)) (hm : 0 < m ∨ e ≤ -149)
    (he : e ≤ single.place q) :
    roundWithAccuracy binary32 s m e acc = unpacked s (single.roundRat q) := by
  have htarget : binary32.targetExponent (totalExponent m e) = single.place q := by
    rcases Nat.eq_zero_or_pos m with rfl | hpos
    · exact targetExponent_zero hdigits hq (hm.resolve_left (lt_irrefl 0))
    · exact targetExponent_eq hdigits hpos
  obtain ⟨n, hn, hround⟩ := Binary.Format.exists_roundRat_eq (f := single) hq
  have hshift : e + ((single.place q - e).toNat : ℤ) = single.place q := by omega
  -- The first shift leaves the digits at the place of the number.
  have hfirst : (ExtendedMantissa.ofMantissaAndAccuracy m acc >>>
      (single.place q - e).toNat).roundedMantissa = n := by
    refine RoundsTo.unique (z := q / 2 ^ single.place q) ?_ hn
    have hdigits' := (hdigits.shiftRight (single.place q - e).toNat).roundsTo
    rwa [div_div, ← zpow_natCast, ← zpow_add₀ two_ne_zero, hshift] at hdigits'
  -- The second one takes a carry into the exponent.
  have hsecond := shiftToTargetExponent_carry (n := n)
    (hn.le_of_le (by exact_mod_cast (Binary.Format.div_place_lt (f := single) q).le))
    (Binary.Format.leastExponent_le_place (f := single) (q := q))
  unfold roundWithAccuracy
  rw [shiftToTargetExponent, shiftToExponent, htarget, hshift]
  simp only [hfirst, hsecond, unpacked, hround, show single.precision = 24 from rfl]
  split <;> rfl

/-- Digits with an exponent are rounded to the nearest value, whether there are enough or not. -/
theorem round_eq (s : Sign) (hm : 0 < m) (e : ℤ) :
    UnpackedFloat.round binary32 s m e = unpacked s (single.roundRat (m * 2 ^ e)) := by
  have hunit := two_zpow_pos e
  have hvalue (k : ℕ) : Describes (.ofMantissaAndAccuracy (m <<< k) .exact)
      ((m * 2 ^ e : ℚ) / 2 ^ (e - k : ℤ)) := by
    have hexact : (m * 2 ^ e : ℚ) / 2 ^ (e - k : ℤ) = ((m <<< k : ℕ) : ℚ) := by
      rw [Nat.shiftLeft_eq, zpow_sub₀ two_ne_zero, zpow_natCast]
      push_cast
      field_simp
    rw [hexact]
    exact describes_exact _
  have htarget : binary32.targetExponent (totalExponent m e) = single.place (m * 2 ^ e) := by
    have hdigits : Describes (.ofMantissaAndAccuracy m .exact) ((m * 2 ^ e : ℚ) / 2 ^ e) := by
      simpa using hvalue 0
    exact targetExponent_eq hdigits hm
  unfold UnpackedFloat.round decreaseExponent
  rw [htarget]
  refine roundWithAccuracy_eq s (by positivity) (hvalue _) (.inl ?_) (by omega)
  rw [Nat.shiftLeft_eq]
  positivity

/-! ## Storing and reading -/

variable {x : Magnitude}

/-- A magnitude in the form in which the format stores it, not too large for a finite value. -/
structure Storable (x : Magnitude) : Prop where
  canonical : single.Canonical x
  exponent_le : x.exponent ≤ 104

theorem storable_zero : Storable ⟨0, -149⟩ := ⟨⟨by decide, le_rfl, nofun⟩, by norm_num⟩

theorem storable_ofBits {b : ℕ} (hb : single.isFinite b = true) : Storable (single.ofBits b) :=
  ⟨Binary.canonical_single_ofBits b, Binary.exponent_single_ofBits_le hb⟩

/-- A magnitude can be read off its stored form, which is not that of an infinity. -/
theorem ofBits_bits (hx : Storable x) :
    single.bits x < 255 * 2 ^ 23 ∧ single.ofBits (single.bits x) = x := by
  obtain ⟨m, e⟩ := x
  obtain ⟨hcanonical, hexp⟩ := hx
  simp only at hexp
  have hlt : m < 2 ^ 24 := hcanonical.significand_lt
  have hle : -149 ≤ e := hcanonical.leastExponent_le
  have hleading : -149 < e → 2 ^ 23 ≤ m := hcanonical.le_significand
  by_cases hsmall : m < 2 ^ 23
  · obtain rfl : e = -149 := by
      by_contra hne
      have := hleading (lt_of_le_of_ne hle (Ne.symm hne))
      omega
    rw [Binary.single_bits_of_lt hexp hsmall, Binary.single_ofBits_of_zero (by omega),
      Nat.mod_eq_of_lt hsmall]
    exact ⟨by omega, rfl⟩
  · rw [Binary.single_bits_of_le hexp (not_lt.1 hsmall)]
    have hbiased : ((e - -149 + 1).toNat * 2 ^ 23 + (m - 2 ^ 23)) / 2 ^ 23 % 2 ^ 8 =
        (e - -149 + 1).toNat := by omega
    refine ⟨by omega, ?_⟩
    rw [Binary.single_ofBits_of_ne_zero (by omega), hbiased, Magnitude.mk.injEq]
    omega

/-- A finite pattern is read as the magnitude it stores, with its sign. -/
theorem unpack_packComponents (s : Sign) {e : BitVec 8} (m : BitVec 23) (he : e ≠ -1#8) :
    unpack binary32 (packComponents binary32 s e m) =
      unpacked s (single.ofBits (e.toNat * 2 ^ 23 + m.toNat)) := by
  have hm : m.toNat < 2 ^ 23 := m.isLt
  have he' : e.toNat < 2 ^ 8 := e.isLt
  have hbiased : (e.toNat * 2 ^ 23 + m.toNat) / 2 ^ 23 % 2 ^ 8 = e.toNat := by omega
  have hfraction : (e.toNat * 2 ^ 23 + m.toNat) % 2 ^ 23 = m.toNat := by omega
  have hzero : e = 0#8 ↔ e.toNat = 0 := by
    rw [← BitVec.toNat_inj]
    rfl
  have hmzero : m = 0#23 ↔ m.toNat = 0 := by
    rw [← BitVec.toNat_inj]
    rfl
  unfold unpack
  simp only [unpackMantissa_packComponents, unpackExponent_packComponents,
    unpackSign_packComponents, ofBitVec_toBitVec]
  rw [if_neg he]
  split
  · rename_i hsubnormal
    rw [Binary.single_ofBits_of_zero (hbiased.trans (hzero.1 hsubnormal)), hfraction, unpacked]
    split
    · rename_i hnone
      rw [dif_pos (hmzero.1 hnone)]
    · rename_i hsome
      rw [dif_neg fun h => hsome (hmzero.2 h), hsubnormal]
      rfl
  · rename_i hnormal
    have hpos : e.toNat ≠ 0 := fun h => hnormal (hzero.2 h)
    rw [Binary.single_ofBits_of_ne_zero (by rwa [hbiased]), hfraction, hbiased, unpacked,
      dif_neg (show 2 ^ 23 + m.toNat ≠ 0 by omega)]
    simp only [toNat_leading]
    congr 1
    change (e.toNat : ℤ) - ((127 : ℕ) + (23 : ℕ)) = -149 + (e.toNat : ℤ) - 1
    omega

/-- Every magnitude that can be stored has a pattern, which is read as the magnitude. -/
theorem exists_unpack_eq (s : Sign) (hx : Storable x) :
    ∃ (e : BitVec 8) (m : BitVec 23), e ≠ -1#8 ∧
      e.toNat * 2 ^ 23 + m.toNat = single.bits x ∧
      unpack binary32 (packComponents binary32 s e m) = unpacked s x := by
  obtain ⟨hlt, hbits⟩ := ofBits_bits hx
  have he : (BitVec.ofNat 8 (single.bits x / 2 ^ 23)).toNat = single.bits x / 2 ^ 23 := by
    rw [BitVec.toNat_ofNat]
    exact Nat.mod_eq_of_lt (by omega)
  have hm : (BitVec.ofNat 23 (single.bits x % 2 ^ 23)).toNat = single.bits x % 2 ^ 23 := by
    rw [BitVec.toNat_ofNat]
    exact Nat.mod_eq_of_lt (by omega)
  have hfinite : BitVec.ofNat 8 (single.bits x / 2 ^ 23) ≠ -1#8 := by
    have hinfinite : (-1#8).toNat = 255 := rfl
    rw [ne_eq, ← BitVec.toNat_inj, he, hinfinite]
    omega
  have hsum : single.bits x / 2 ^ 23 * 2 ^ 23 + single.bits x % 2 ^ 23 = single.bits x := by omega
  refine ⟨_, BitVec.ofNat 23 (single.bits x % 2 ^ 23), hfinite, ?_, ?_⟩
  · rw [he, hm, hsum]
  · rw [unpack_packComponents s _ hfinite, he, hm, hsum, hbits]

/-- What is stored is read again. -/
theorem unpack_pack_unpacked (s : Sign) (hx : Storable x) :
    unpack binary32 (pack binary32 (unpacked s x)) = unpacked s x := by
  obtain ⟨e, m, he, -, hunpack⟩ := exists_unpack_eq s hx
  rw [← hunpack, pack_unpack_packComponents s m he]

theorem unpack_pack_zero (s : Sign) : unpack binary32 (pack binary32 (.zero s)) = .zero s := by
  cases s <;> rfl

/-- Every pattern is read as an infinity, as no number or as a magnitude with a sign. -/
theorem unpack_cases (b : BitVec binary32.numBits) :
    (∃ s, unpack binary32 b = .infinity s) ∨ unpack binary32 b = .notANumber ∨
      ∃ s x, Storable x ∧ unpack binary32 b = unpacked s x := by
  obtain ⟨s, e, m, rfl⟩ := exists_packComponents b
  by_cases he : e = -1#8
  · unfold unpack
    simp only [unpackMantissa_packComponents, unpackExponent_packComponents,
      unpackSign_packComponents, ofBitVec_toBitVec]
    rw [if_pos he]
    split
    · exact .inl ⟨s, rfl⟩
    · exact .inr (.inl rfl)
  · refine .inr (.inr ⟨s, _, storable_ofBits ?_, unpack_packComponents s m he⟩)
    have hm : m.toNat < 2 ^ 23 := m.isLt
    have hlt : e.toNat < 2 ^ 8 := e.isLt
    have hne : e.toNat ≠ 255 := fun h => he (BitVec.eq_of_toNat_eq h)
    rw [Binary.Format.isFinite, bne_iff_ne]
    change (e.toNat * 2 ^ 23 + m.toNat) / 2 ^ 23 % 2 ^ 8 ≠ 255
    omega

end ModelPreview
