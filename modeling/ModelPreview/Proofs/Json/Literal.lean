import Mathlib
import ModelPreview.Proofs.Number.RoundTrip
import ModelPreview.Proofs.Number.Stored

/-!
# Literals and the values they stand for

The digits of a literal are read in order, and as long as they fit nothing is lost.  The literal of a
finite 32-bit value is therefore read as that value, down to the sign of zero.

Main results:

- `Json.natOfDigits_digitsOf`: a natural number is read back from its digits.
- `Json.NumberLiteral.scientific_eq`: significand and power of ten of a literal that fits.
- `Json.Layout.magnitude_literal`: what the literal of a decimal is read as.
- `Json.exists_value_ofSingle?`: the literal of a finite value stands for it.
-/

namespace ModelPreview
namespace Json

open Binary

/-! ## Digits -/

theorem digit?_digitChar {n : ℕ} (hn : n < 10) : digit? (Nat.digitChar n) = some ⟨n, hn⟩ := by
  revert n
  decide

theorem digitsOf_of_lt {n : ℕ} (hn : n < 10) : digitsOf n = [⟨n, hn⟩] := by
  simp [digitsOf, Nat.toDigits_of_lt_base hn, digit?_digitChar hn]

theorem digitsOf_of_le {n : ℕ} (hn : 10 ≤ n) :
    digitsOf n = digitsOf (n / 10) ++ [⟨n % 10, Nat.mod_lt n (by norm_num)⟩] := by
  simp [digitsOf, Nat.toDigits_of_base_le (by norm_num : 1 < 10) hn,
    digit?_digitChar (Nat.mod_lt n (by norm_num : 10 > 0))]

theorem length_digitsOf (n : ℕ) : (digitsOf n).length = digitCount n := by
  induction n using Nat.strong_induction_on with
  | _ n ih =>
    rcases lt_or_ge n 10 with hn | hn
    · simp [digitsOf_of_lt hn, digitCount, Nat.toDigits_of_lt_base hn]
    · have hdiv := ih (n / 10) (Nat.div_lt_self (by omega) (by norm_num))
      simp [digitsOf_of_le hn, hdiv, digitCount, Nat.toDigits_of_base_le (by norm_num : 1 < 10) hn]

theorem digitsOf_ne_nil (n : ℕ) : digitsOf n ≠ [] := by
  rw [Ne, ← List.length_eq_zero_iff, length_digitsOf]
  exact (digitCount_pos n).ne'

/-- The digits of a positive number do not start with zero. -/
theorem head?_digitsOf_ne {n : ℕ} (hn : 0 < n) : (digitsOf n).head? ≠ some 0 := by
  induction n using Nat.strong_induction_on with
  | _ n ih =>
    rcases lt_or_ge n 10 with hlt | hge
    · rw [digitsOf_of_lt hlt]
      intro h
      have : n = 0 := by simpa using congrArg (Option.map Fin.val) h
      omega
    · rw [digitsOf_of_le hge, List.head?_append_of_ne_nil _ (digitsOf_ne_nil _)]
      exact ih (n / 10) (Nat.div_lt_self hn (by norm_num)) (by omega)

/-- Reading on after a number. -/
theorem foldl_digits (ds : List Digit) (n : ℕ) :
    ds.foldl (fun n d => 10 * n + d.val) n = n * 10 ^ ds.length + natOfDigits ds := by
  unfold natOfDigits
  induction ds generalizing n with
  | nil => simp
  | cons d ds ih =>
    rw [List.foldl_cons, ih, List.foldl_cons, ih (10 * 0 + d.val), List.length_cons, pow_succ]
    ring

theorem natOfDigits_append (ds ds' : List Digit) :
    natOfDigits (ds ++ ds') = natOfDigits ds * 10 ^ ds'.length + natOfDigits ds' := by
  conv_lhs => rw [natOfDigits, List.foldl_append]
  rw [foldl_digits]
  rfl

@[simp]
theorem natOfDigits_replicate_zero (k : ℕ) : natOfDigits (List.replicate k 0) = 0 := by
  induction k with
  | zero => rfl
  | succ k ih => rw [List.replicate_succ', natOfDigits_append, ih]; rfl

/-- A natural number is read back from its digits. -/
@[simp]
theorem natOfDigits_digitsOf (n : ℕ) : natOfDigits (digitsOf n) = n := by
  induction n using Nat.strong_induction_on with
  | _ n ih =>
    rcases lt_or_ge n 10 with hn | hn
    · simp [digitsOf_of_lt hn, natOfDigits]
    · rw [digitsOf_of_le hn, natOfDigits_append,
        ih (n / 10) (Nat.div_lt_self (by omega) (by norm_num))]
      simp only [natOfDigits, List.foldl_cons, List.foldl_nil, List.length_singleton]
      omega

/-- Digits that fit are all taken up. -/
theorem accumulate_eq {limit n : ℕ} {ds : List Digit}
    (hfit : n * 10 ^ ds.length + natOfDigits ds ≤ limit) :
    accumulate limit n ds = (n * 10 ^ ds.length + natOfDigits ds, []) := by
  rw [← foldl_digits] at hfit ⊢
  induction ds generalizing n with
  | nil => rfl
  | cons d ds ih =>
    rw [List.foldl_cons] at hfit ⊢
    have hle : 10 * n + d.val ≤ limit := by
      refine le_trans ?_ hfit
      rw [foldl_digits]
      exact le_add_right (Nat.le_mul_of_pos_right _ (by positivity))
    rw [accumulate, if_pos hle]
    exact ih hfit

/-! ## Decimals -/

namespace NumberLiteral

/-- A number as the grammar has it: digits in every part, and no zero in front of another digit. -/
structure WellFormed (l : NumberLiteral) : Prop where
  fault_eq : l.fault = none
  whole_ne_nil : l.whole ≠ []
  leading : l.whole.head? = some 0 → l.whole = [0]
  fraction_ne_nil : l.fraction ≠ some []
  exponent_ne_nil : ∀ minus, l.exponent ≠ some (minus, [])

/-- The digits of a literal before and after the point. -/
def allDigits (l : NumberLiteral) : List Digit := l.whole ++ l.fraction.getD []

/-- The written exponent of a literal; none is zero. -/
def writtenExponent (l : NumberLiteral) : ℤ :=
  match l.exponent with
  | none => 0
  | some (minus, ds) => if minus then -(natOfDigits ds : ℤ) else natOfDigits ds

/-- The power of ten that the last digit of a literal stands for. -/
def lastPlace (l : NumberLiteral) : ℤ := l.writtenExponent - (l.fraction.getD []).length

/-- Significand and power of ten of a literal whose digits fit. -/
theorem scientific_eq {l : NumberLiteral} (hfit : natOfDigits l.allDigits ≤ maxSignificand) :
    l.scientific = (natOfDigits l.allDigits, -((l.fraction.getD []).length : ℤ)) := by
  obtain ⟨negative, whole, fraction, exponent, fault⟩ := l
  have hwhole : natOfDigits whole ≤ maxSignificand := by
    refine le_trans ?_ hfit
    rw [allDigits, natOfDigits_append]
    exact le_add_right (Nat.le_mul_of_pos_right _ (by positivity))
  have hacc : accumulate maxSignificand 0 whole = (natOfDigits whole, []) := by
    rw [accumulate_eq (by simpa using hwhole)]
    simp
  cases fraction with
  | none => simp [scientific, hacc, allDigits]
  | some ds =>
    rw [allDigits, Option.getD_some, natOfDigits_append] at hfit
    simp only [scientific, hacc, accumulate_eq hfit, allDigits, Option.getD_some,
      natOfDigits_append]
    simp

end NumberLiteral

/-- A few digits times a power of ten in range do not overflow. -/
theorem not_overflows_mul_powerOfTen {n k : ℕ} (hn : 0 < n) (hlt : n < 2 ^ 53) (hk : k ≤ 60) :
    double.overflows (double.mul (double.round n 1) (powerOfTen k)) = false := by
  have hgreatest : double.greatestExponent = 971 := by decide
  have hnq : (n : ℚ) < 2 ^ 53 := by exact_mod_cast hlt
  have hproduct : (n : ℚ) * (powerOfTen k).toRat < 2 ^ (300 : ℤ) := by
    calc (n : ℚ) * (powerOfTen k).toRat ≤ 2 ^ 53 * (2 * 10 ^ k) :=
          mul_le_mul hnq.le (powerOfTen_bounds k).2 (powerOfTen_pos k).le (by positivity)
      _ ≤ 2 ^ 53 * (2 * 16 ^ 60) := by
          gcongr
          calc (10 : ℚ) ^ k ≤ 16 ^ k := by gcongr; norm_num
            _ ≤ 16 ^ 60 := pow_le_pow_right₀ (by norm_num) hk
      _ < 2 ^ (300 : ℤ) := by
          rw [show (16 : ℚ) = 2 ^ 4 by norm_num, ← pow_mul, ← pow_succ', ← pow_add, ← zpow_natCast]
          exact zpow_lt_zpow_right₀ one_lt_two (by norm_num)
  have hexp := Format.exponent_round_le (f := double)
    (Nat.mul_pos (num_double_round_nat_pos hn hlt)
      (Magnitude.num_pos_of_toRat_pos (powerOfTen_pos k)))
    (Nat.mul_pos (double.round n 1).den_pos (powerOfTen k).den_pos) (k := 300)
    (by rwa [Magnitude.num_mul_div_den_mul, toRat_double_round_nat hn hlt]) (by decide)
  rw [Format.overflows, hgreatest, decide_eq_false_iff_not, not_lt]
  exact hexp.trans (by decide)

/-- Scaling by a power of ten in range is reading back. -/
theorem scale_eq_readBack {n : ℕ} {e : ℤ} (hn : 0 < n) (hlt : n < 2 ^ 53) (hlow : -200 ≤ e)
    (hhigh : e ≤ 60) : scale (double.round n 1) e = some (readBack n e) := by
  rw [scale, if_neg (by omega)]
  split
  · rename_i hneg
    rw [readBack, if_pos hneg]
  · rename_i hnonneg
    rw [if_pos (by omega), readBack, if_neg hnonneg]
    simp [not_overflows_mul_powerOfTen hn hlt (show e.toNat ≤ 60 by omega)]

/-- What a literal is read as, if its digits and its power of ten are small. -/
theorem NumberLiteral.magnitude_eq {l : NumberLiteral} (hn : 0 < natOfDigits l.allDigits)
    (hlt : natOfDigits l.allDigits < 2 ^ 53) (hlow : -200 ≤ l.lastPlace) (hhigh : l.lastPlace ≤ 60)
    (hexp : l.writtenExponent.natAbs ≤ maxExponent) :
    l.magnitude = some (readBack (natOfDigits l.allDigits) l.lastPlace) := by
  have hsci := scientific_eq (l := l) (hlt.le.trans (by decide))
  have hscale := scale_eq_readBack hn hlt hlow hhigh
  unfold magnitude
  rw [hsci]
  unfold lastPlace writtenExponent at *
  cases hexponent : l.exponent with
  | none =>
    simp only [hexponent, zero_sub] at hscale ⊢
    exact hscale
  | some x =>
    obtain ⟨minus, ds⟩ := x
    simp only [hexponent] at hexp hscale ⊢
    have hacc : accumulate maxExponent 0 ds = (natOfDigits ds, []) := by
      rw [accumulate_eq]
      · simp
      · cases minus <;> simpa using hexp
    simp only [hacc]
    cases minus
    · simpa [sub_eq_neg_add] using hscale
    · simpa [sub_eq_neg_add, add_comm] using hscale

/-! ## Written decimals -/

namespace Layout

variable {negative : Bool} {w : Decimal}

/-- A small number has zeros after the point. -/
theorem literal_of_neg (hlow : -6 ≤ w.leadingExponent) (hneg : w.leadingExponent < 0) :
    single.literal negative w = ⟨negative, [0],
      some (List.replicate (-w.leadingExponent - 1).toNat 0 ++ digitsOf w.digits), none, none⟩ := by
  unfold Decimal.leadingExponent at *
  simp only [literal, length_digitsOf, single]
  rw [if_pos ⟨hlow, by omega⟩, if_pos hneg]

/-- A whole number has zeros in front of the point and one behind it. -/
theorem literal_of_whole (hwhole : 0 ≤ w.exponent) (hhigh : w.leadingExponent ≤ 12) :
    single.literal negative w = ⟨negative,
      digitsOf w.digits ++ List.replicate w.exponent.toNat 0, some [0], none, none⟩ := by
  have hcount := digitCount_pos w.digits
  have hlen := length_digitsOf w.digits
  unfold Decimal.leadingExponent at *
  simp only [literal, hlen, single]
  rw [if_pos ⟨by omega, hhigh⟩, if_neg (by omega), List.drop_eq_nil_of_le (by omega),
    List.take_of_length_le (by omega)]
  congr 3
  omega

/-- Otherwise the point stands among the digits. -/
theorem literal_of_mixed (hnonneg : 0 ≤ w.leadingExponent) (hhigh : w.leadingExponent ≤ 12)
    (hmixed : w.exponent < 0) :
    single.literal negative w = ⟨negative, (digitsOf w.digits).take (w.leadingExponent.toNat + 1),
      some ((digitsOf w.digits).drop (w.leadingExponent.toNat + 1)), none, none⟩ := by
  have hlen := length_digitsOf w.digits
  unfold Decimal.leadingExponent at *
  have hrest : ((digitsOf w.digits).drop
      ((w.exponent + digitCount w.digits - 1).toNat + 1)).isEmpty = false := by
    rw [List.isEmpty_eq_false_iff, Ne, List.drop_eq_nil_iff]
    omega
  simp only [literal, hlen, single]
  rw [if_pos ⟨by omega, hhigh⟩, if_neg (by omega), hrest,
    show (w.exponent + digitCount w.digits - 1).toNat + 1 - digitCount w.digits = 0 by omega]
  simp

/-- Very small and very large numbers have an exponent and the point after the first digit. -/
theorem literal_of_exponent (h : ¬ (-6 ≤ w.leadingExponent ∧ w.leadingExponent ≤ 12)) :
    single.literal negative w = ⟨negative, (digitsOf w.digits).take 1,
      if ((digitsOf w.digits).drop 1).isEmpty then none else some ((digitsOf w.digits).drop 1),
      some (w.leadingExponent < 0, digitsOf w.leadingExponent.natAbs), none⟩ := by
  unfold Decimal.leadingExponent at *
  simp only [literal, length_digitsOf, single]
  rw [if_neg h]

/-- The literal of a decimal is well formed. -/
theorem wellFormed_literal (negative : Bool) (hpos : 0 < w.digits) :
    (single.literal negative w).WellFormed := by
  have hlen := length_digitsOf w.digits
  have hcount := digitCount_pos w.digits
  have hne := digitsOf_ne_nil w.digits
  have hhead := head?_digitsOf_ne hpos
  have hlead : w.leadingExponent = w.exponent + digitCount w.digits - 1 := rfl
  by_cases hpositional : -6 ≤ w.leadingExponent ∧ w.leadingExponent ≤ 12
  · by_cases hwhole : 0 ≤ w.exponent
    · rw [literal_of_whole hwhole hpositional.2]
      refine ⟨rfl, by simp [hne], fun h => ?_, nofun, nofun⟩
      rw [List.head?_append_of_ne_nil _ hne] at h
      exact absurd h hhead
    by_cases hneg : w.leadingExponent < 0
    · rw [literal_of_neg hpositional.1 hneg]
      exact ⟨rfl, by simp, fun _ => rfl, by simp [hne], nofun⟩
    · rw [literal_of_mixed (by omega) hpositional.2 (by omega)]
      refine ⟨rfl, by simp [hne], fun h => ?_, ?_, nofun⟩
      · rw [List.head?_take, if_neg (by omega)] at h
        exact absurd h hhead
      · simp only [ne_eq, Option.some.injEq, List.drop_eq_nil_iff]
        omega
  · rw [literal_of_exponent hpositional]
    refine ⟨rfl, by simp [hne], fun h => ?_, ?_, ?_⟩
    · rw [List.head?_take, if_neg (by omega)] at h
      exact absurd h hhead
    · split
      · nofun
      · rename_i hempty
        simpa using hempty
    · simp [digitsOf_ne_nil]

/-- Digits and last place of the literal of a decimal. -/
theorem literal_spec (negative : Bool) (w : Decimal) :
    natOfDigits (single.literal negative w).allDigits = w.asRead.digits ∧
      (single.literal negative w).lastPlace = w.asRead.exponent ∧
      (single.literal negative w).writtenExponent.natAbs ≤ w.leadingExponent.natAbs := by
  have hlen := length_digitsOf w.digits
  have hcount := digitCount_pos w.digits
  have hlead : w.leadingExponent = w.exponent + digitCount w.digits - 1 := rfl
  by_cases hpositional : -6 ≤ w.leadingExponent ∧ w.leadingExponent ≤ 12
  · by_cases hwhole : 0 ≤ w.exponent
    · rw [literal_of_whole hwhole hpositional.2, Decimal.asRead_of_whole ⟨hwhole, hpositional.2⟩]
      refine ⟨?_, rfl, by simp [NumberLiteral.writtenExponent]⟩
      rw [NumberLiteral.allDigits, Option.getD_some, natOfDigits_append, natOfDigits_append,
        natOfDigits_digitsOf, natOfDigits_replicate_zero, List.length_replicate,
        show (w.exponent + 1).toNat = w.exponent.toNat + 1 by omega, pow_succ]
      simp [natOfDigits, mul_assoc]
    rw [Decimal.asRead_of_not_whole (fun h => hwhole h.1)]
    by_cases hneg : w.leadingExponent < 0
    · rw [literal_of_neg hpositional.1 hneg]
      refine ⟨?_, ?_, by simp [NumberLiteral.writtenExponent]⟩
      · rw [NumberLiteral.allDigits, Option.getD_some, natOfDigits_append, natOfDigits_append,
          natOfDigits_digitsOf, natOfDigits_replicate_zero]
        simp [natOfDigits]
      · simp only [NumberLiteral.lastPlace, NumberLiteral.writtenExponent, Option.getD_some,
          List.length_append, List.length_replicate, hlen]
        omega
    · rw [literal_of_mixed (by omega) hpositional.2 (by omega)]
      refine ⟨?_, ?_, by simp [NumberLiteral.writtenExponent]⟩
      · rw [NumberLiteral.allDigits, Option.getD_some, List.take_append_drop, natOfDigits_digitsOf]
      · simp only [NumberLiteral.lastPlace, NumberLiteral.writtenExponent, Option.getD_some,
          List.length_drop, hlen]
        omega
  · rw [literal_of_exponent hpositional, Decimal.asRead_of_not_whole (by omega)]
    have hfraction : (if ((digitsOf w.digits).drop 1).isEmpty then none
        else some ((digitsOf w.digits).drop 1)).getD [] = (digitsOf w.digits).drop 1 := by
      split
      · rename_i hempty
        exact (List.isEmpty_iff.1 hempty).symm
      · rfl
    have hexp : ∀ whole fraction, NumberLiteral.writtenExponent ⟨negative, whole, fraction,
        some (w.leadingExponent < 0, digitsOf w.leadingExponent.natAbs), none⟩
          = w.leadingExponent := by
      intro whole fraction
      simp only [NumberLiteral.writtenExponent, natOfDigits_digitsOf, decide_eq_true_eq]
      split <;> omega
    refine ⟨?_, ?_, by rw [hexp]⟩
    · rw [NumberLiteral.allDigits, hfraction, List.take_append_drop, natOfDigits_digitsOf]
    · rw [NumberLiteral.lastPlace, hexp, hfraction, List.length_drop, hlen]
      omega

/-- The literal of a decimal with few digits is read as its reading. -/
theorem magnitude_literal (negative : Bool) (hpos : 0 < w.digits) (hle : w.digits ≤ 10 ^ 9)
    (hlow : -60 ≤ w.exponent) (hhigh : w.exponent ≤ 60) :
    (single.literal negative w).magnitude = some w.reading := by
  obtain ⟨hdigits, hplace, hexp⟩ := literal_spec negative w
  have hcount : digitCount w.digits ≤ 10 :=
    (Nat.length_toDigits_le_iff (by norm_num) (by norm_num)).2 (lt_of_le_of_lt hle (by norm_num))
  have hasRead : 0 < w.asRead.digits ∧ w.asRead.digits < 2 ^ 53 ∧ -200 ≤ w.asRead.exponent ∧
      w.asRead.exponent ≤ 60 := by
    by_cases hwhole : 0 ≤ w.exponent ∧ w.leadingExponent ≤ 12
    · have hlt := Decimal.digits_mul_pow_lt hwhole
      rw [Decimal.asRead_of_whole hwhole]
      refine ⟨Nat.mul_pos hpos (by positivity), ?_, by norm_num, by norm_num⟩
      change w.digits * 10 ^ (w.exponent + 1).toNat < 2 ^ 53
      rw [show (w.exponent + 1).toNat = w.exponent.toNat + 1 by omega, pow_succ, ← mul_assoc]
      omega
    · rw [Decimal.asRead_of_not_whole hwhole]
      exact ⟨hpos, lt_of_le_of_lt hle (by norm_num), by omega, hhigh⟩
  have hlead : w.leadingExponent.natAbs ≤ maxExponent := by
    have hbound : w.leadingExponent.natAbs ≤ 100 := by
      unfold Decimal.leadingExponent
      omega
    exact hbound.trans (by decide)
  rw [NumberLiteral.magnitude_eq (hdigits ▸ hasRead.1) (hdigits ▸ hasRead.2.1)
    (hplace ▸ hasRead.2.2.1) (hplace ▸ hasRead.2.2.2) (hexp.trans hlead), hdigits, hplace]
  rfl

/-- The literal of a decimal is not written as an integer. -/
theorem isInteger_literal (negative : Bool) (w : Decimal) :
    (single.literal negative w).isInteger = false := by
  simp only [NumberLiteral.isInteger, literal]
  split
  · split <;> simp
  · simp

theorem fault_literal (negative : Bool) (w : Decimal) :
    (single.literal negative w).fault = none := by
  simp only [literal]
  split
  · split <;> rfl
  · rfl

theorem negative_literal (negative : Bool) (w : Decimal) :
    (single.literal negative w).negative = negative := by
  simp only [literal]
  split
  · split <;> rfl
  · rfl

end Layout

/-! ## 32-bit values -/

/-- A literal with a point or an exponent stands for its magnitude. -/
theorem NumberLiteral.value_of_magnitude {l : NumberLiteral} {x : Magnitude}
    (hfault : l.fault = none) (hinteger : l.isInteger = false) (hx : l.magnitude = some x) :
    l.value = .ok (.real l.negative x) := by
  simp [value, hfault, hinteger, hx]

theorem NumberLiteral.magnitude_zero (negative : Bool) :
    (zero negative).magnitude = some ⟨0, double.leastExponent⟩ := by
  have hsci : (zero negative).scientific = (0, -1) := by
    cases negative <;> decide
  have hscale : scale ⟨0, double.leastExponent⟩ (-1) = some ⟨0, double.leastExponent⟩ := by
    rw [scale, if_neg (by norm_num), if_pos (by norm_num)]
    simp [Format.div, Format.round, Magnitude.num]
  rw [magnitude, hsci]
  exact hscale

/-- The only magnitude of the format that is zero. -/
theorem single_ofBits_of_isZero {b : ℕ} (hzero : (Binary.single.ofBits b).isZero = true) :
    Binary.single.ofBits b = ⟨0, Binary.single.leastExponent⟩ := by
  have hcanonical := canonical_single_ofBits b
  generalize Binary.single.ofBits b = x at *
  obtain ⟨m, e⟩ := x
  obtain rfl : m = 0 := beq_iff_eq.1 hzero
  have hexp : ¬ Binary.single.leastExponent < e := fun h =>
    absurd (hcanonical.le_significand h) (not_le.2 (Nat.two_pow_pos _))
  have hle : Binary.single.leastExponent ≤ e := hcanonical.leastExponent_le
  rw [le_antisymm (not_lt.1 hexp) hle]

/-- The literal of a finite value stands for a number that is rounded to the value. -/
theorem exists_value_ofSingle? {x : Float32} (hx : x.isFinite = true) :
    ∃ l n, NumberLiteral.ofSingle? x = some l ∧ l.WellFormed ∧ l.value = .ok n ∧
      n.toSingle = x := by
  have hfinite := (isFinite_iff x).1 hx
  have hbits : x.toBits.toNat < 2 ^ 32 := x.toBits.toNat_lt
  have hback : ∀ y : Magnitude, Binary.single.narrow y = Binary.single.ofBits x.toBits.toNat →
      (Number.real (Binary.single.isNegative x.toBits.toNat) y).toSingle = x := by
    intro y hy
    rw [Number.toSingle, toSingle, hy, single_signedBits_ofBits hbits hfinite, UInt32.ofNat_toNat,
      ofBits_toBits hx]
  simp only [NumberLiteral.ofSingle?, hfinite, if_true]
  by_cases hzero : (Binary.single.ofBits x.toBits.toNat).isZero = true
  · refine ⟨_, _, rfl, ?_, ?_, hback ⟨0, double.leastExponent⟩ ?_⟩
    · rw [if_pos hzero]
      exact ⟨rfl, nofun, fun _ => rfl, nofun, nofun⟩
    · rw [if_pos hzero]
      exact NumberLiteral.value_of_magnitude rfl rfl (NumberLiteral.magnitude_zero _)
    · rw [single_ofBits_of_isZero hzero]
      rfl
  · have hcanonical := canonical_single_ofBits x.toBits.toNat
    have hpos : 0 < (Binary.single.ofBits x.toBits.toNat).significand := by
      rw [Magnitude.isZero, beq_iff_eq] at hzero
      omega
    have hw := writtenAs_shortest hcanonical hpos (exponent_single_ofBits_le hfinite)
    rw [if_neg hzero]
    refine ⟨_, _, rfl, Layout.wellFormed_literal _ hw.digits_pos, ?_, hback _ hw.narrow_reading⟩
    rw [NumberLiteral.value_of_magnitude (Layout.fault_literal _ _)
      (Layout.isInteger_literal _ _) (Layout.magnitude_literal _ hw.digits_pos hw.digits_le
        hw.le_exponent hw.exponent_le), Layout.negative_literal]

/-- Infinities and NaN have no literal. -/
theorem NumberLiteral.ofSingle?_of_not_isFinite {x : Float32} (hx : x.isFinite = false) :
    ofSingle? x = none := by
  have hbits : ¬ Binary.single.isFinite x.toBits.toNat = true := by
    rw [← isFinite_iff, hx]
    exact Bool.false_ne_true
  simp only [ofSingle?, if_neg hbits]

end Json
end ModelPreview
