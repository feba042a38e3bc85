import Mathlib
import ModelPreview.Proofs.Number.Rounding

/-!
# Stored 32-bit values

A finite 32-bit value is determined by its bits, and these by its sign and magnitude.

Main results:

- `ofBits_toBits`: a finite value is rebuilt from its bits.
- `isFinite_iff`: finiteness can be read off the bits.
- `Binary.single_signedBits_ofBits`: sign and magnitude give the bits back.
-/

namespace ModelPreview

open Float.Model (Format)
open Float.Model.UnpackedFloat

/-! ## Bit patterns -/

theorem ofBitVec_toBitVec (s : Sign) : Sign.ofBitVec s.toBitVec = s := by
  cases s <;> rfl

theorem unpackSign_packComponents (s : Sign) (e : BitVec 8) (m : BitVec 23) :
    unpackSign (packComponents Format.binary32 s e m) = s.toBitVec := by
  simp only [unpackSign, packComponents, BitVec.extractLsb]
  ext i hi
  grind

/-- Every bit pattern is put together from a sign, an exponent and a mantissa. -/
theorem exists_packComponents (b : BitVec Format.binary32.numBits) :
    ∃ s e m, b = packComponents Format.binary32 s e m := by
  refine ⟨if b.getLsbD 31 then .negative else .positive, unpackExponent b, unpackMantissa b, ?_⟩
  have hsign : (if b.getLsbD 31 then Sign.negative else Sign.positive).toBitVec
      = unpackSign b := by
    simp only [unpackSign, BitVec.extractLsb]
    ext i hi
    cases h : b.getLsbD 31 <;> grind [Sign.toBitVec]
  simp only [packComponents, hsign, unpackSign, unpackExponent, unpackMantissa, BitVec.extractLsb]
  ext i hi
  grind

/-- The leading one in front of a mantissa. -/
theorem toNat_leading (m : BitVec 23) : (1#1 ++ m).toNat = 2 ^ 23 + m.toNat := by
  rw [BitVec.toNat_append, ← Nat.shiftLeft_add_eq_or_of_lt m.isLt]
  rfl

/-- A finite pattern survives unpacking and packing. -/
theorem pack_unpack_packComponents (s : Sign) {e : BitVec 8} (m : BitVec 23) (he : e ≠ -1#8) :
    pack Format.binary32 (unpack Format.binary32 (packComponents Format.binary32 s e m))
      = packComponents Format.binary32 s e m := by
  have hm : m.toNat < 2 ^ 23 := m.isLt
  have he' : e.toNat < 255 := by
    have hlt : e.toNat < 2 ^ 8 := e.isLt
    have hne : e.toNat ≠ 255 := fun h => he (BitVec.eq_of_toNat_eq h)
    omega
  unfold unpack
  simp only [unpackMantissa_packComponents, unpackExponent_packComponents,
    unpackSign_packComponents, ofBitVec_toBitVec]
  rw [if_neg he]
  split
  · rename_i hzero
    split
    · rename_i hmzero
      rw [hzero, hmzero]
      rfl
    · rename_i hmzero
      -- The mantissa is too short for a leading one.
      have hlog : m.toNat.log2 + 1 ≠ 24 := by
        have hpos : m.toNat ≠ 0 := fun h => hmzero (BitVec.eq_of_toNat_eq h)
        have := (Nat.log2_lt hpos).2 hm
        omega
      rw [hzero]
      unfold pack
      simp only [Format.exponentBias, Format.mantissaBits, BitVec.toNat_ofNat]
      rw [if_neg (by decide), if_neg hlog, BitVec.ofNat_toNat, BitVec.setWidth_eq]
  · rename_i hnonzero
    have hpos : e.toNat ≠ 0 := fun h => hnonzero (BitVec.eq_of_toNat_eq h)
    have hlog : (2 ^ 23 + m.toNat).log2 + 1 = 24 := by
      have hlow : 23 ≤ (2 ^ 23 + m.toNat).log2 := (Nat.le_log2 (by omega)).2 (by omega)
      have hhigh : (2 ^ 23 + m.toNat).log2 < 24 := (Nat.log2_lt (by omega)).2 (by omega)
      omega
    have hbiased : ((e.toNat : ℤ) - ((2 ^ (8 - 1) - 1 : ℕ) + (23 : ℕ)) + (2 ^ (8 - 1) - 1 : ℕ)
        + (23 : ℕ)).toNat = e.toNat := by omega
    unfold pack
    simp only [Format.exponentBias, Format.mantissaBits, toNat_leading, hbiased]
    rw [if_neg (by omega), if_pos hlog, BitVec.ofNat_toNat, BitVec.setWidth_eq]
    congr 1
    apply BitVec.eq_of_toNat_eq
    rw [BitVec.toNat_ofNat]
    omega

theorem toNat_packComponents (s : Sign) (e : BitVec 8) (m : BitVec 23) :
    (packComponents Format.binary32 s e m).toNat
      = (s.toBitVec.toNat * 2 ^ 8 + e.toNat) * 2 ^ 23 + m.toNat := by
  have he : e.toNat < 2 ^ 8 := e.isLt
  have hm : m.toNat < 2 ^ 23 := m.isLt
  rw [packComponents, BitVec.toNat_append, ← Nat.shiftLeft_add_eq_or_of_lt hm, BitVec.toNat_append,
    ← Nat.shiftLeft_add_eq_or_of_lt he, Nat.shiftLeft_eq, Nat.shiftLeft_eq]

/-- Finiteness can be read off the exponent. -/
theorem isFinite_unpack_packComponents (s : Sign) (e : BitVec 8) (m : BitVec 23) :
    (unpack Format.binary32 (packComponents Format.binary32 s e m)).isFinite = true ↔
      e ≠ -1#8 := by
  unfold unpack
  simp only [unpackMantissa_packComponents, unpackExponent_packComponents]
  by_cases he : e = -1#8
  · rw [if_pos he]
    refine iff_of_false ?_ (fun h => h he)
    split <;> simp [isFinite]
  · rw [if_neg he]
    refine iff_of_true ?_ he
    split
    · split <;> rfl
    · rfl

/-! ## Values -/

/-- Finiteness can be read off the bits. -/
theorem isFinite_iff (x : Float32) :
    x.isFinite = true ↔ Binary.single.isFinite x.toBits.toNat = true := by
  obtain ⟨⟨bits, hvalid⟩⟩ := x
  obtain ⟨s, e, m, hbits⟩ := exists_packComponents bits.toBitVec
  have hm : m.toNat < 2 ^ 23 := m.isLt
  have he : e.toNat < 2 ^ 8 := e.isLt
  have hnat : bits.toNat = (s.toBitVec.toNat * 2 ^ 8 + e.toNat) * 2 ^ 23 + m.toNat := by
    rw [← toNat_packComponents, ← hbits]
    rfl
  change (unpack Format.binary32 bits.toBitVec).isFinite = true ↔
    (bits.toNat / 2 ^ 23 % 2 ^ 8 != 255) = true
  rw [hbits, isFinite_unpack_packComponents, hnat, bne_iff_ne]
  have hexp : ((s.toBitVec.toNat * 2 ^ 8 + e.toNat) * 2 ^ 23 + m.toNat) / 2 ^ 23 % 2 ^ 8
      = e.toNat := by omega
  rw [hexp]
  constructor
  · exact fun hne h => hne (BitVec.eq_of_toNat_eq h)
  · rintro hne rfl
    exact hne rfl

/-- A finite value is rebuilt from its bits. -/
theorem ofBits_toBits {x : Float32} (hx : x.isFinite = true) : Float32.ofBits x.toBits = x := by
  obtain ⟨⟨bits, hvalid⟩⟩ := x
  obtain ⟨s, e, m, hbits⟩ := exists_packComponents bits.toBitVec
  change (unpack Format.binary32 bits.toBitVec).isFinite = true at hx
  have hpack : pack Format.binary32 (unpack Format.binary32 bits.toBitVec) = bits.toBitVec := by
    rw [hbits] at hx ⊢
    exact pack_unpack_packComponents s m ((isFinite_unpack_packComponents s e m).1 hx)
  have hmodel : Float32.Model.ofBits bits = ⟨bits, hvalid⟩ := by
    unfold Float32.Model.ofBits Float32.Model.pack
    congr 1
    rw [hpack]
  change Float32.ofModel (Float32.Model.ofBits bits) = _
  rw [hmodel]

/-- A finite value is equal to itself. -/
theorem beq_self_of_isFinite {x : Float32} (hx : x.isFinite = true) : (x == x) = true := by
  change x.toModel.unpack.isFinite = true at hx
  change x.toModel.unpack.beq x.toModel.unpack = true
  cases hu : x.toModel.unpack with
  | notANumber => simp [hu, isFinite] at hx
  | infinity s => simp [hu, isFinite] at hx
  | zero s => cases s <;> rfl
  | finite s m e h => cases s <;> simp [Float.Model.UnpackedFloat.beq, Float.Model.UnpackedFloat.compare]

/-! ## Magnitudes -/

namespace Binary

/-- The magnitude of a stored value has the form in which the format stores it. -/
theorem canonical_single_ofBits (b : ℕ) : single.Canonical (single.ofBits b) := by
  unfold Format.ofBits
  have hfrac : b % 2 ^ (single.precision - 1) < 2 ^ 23 := Nat.mod_lt _ (by decide)
  simp only
  split
  · exact ⟨lt_trans hfrac (by decide), le_rfl, fun h => absurd h (lt_irrefl _)⟩
  · rename_i hbiased
    refine ⟨?_, ?_, fun _ => Nat.le_add_right _ _⟩
    · change 2 ^ 23 + b % 2 ^ (single.precision - 1) < 2 ^ 24
      omega
    · change single.leastExponent ≤ single.leastExponent
        + ((b / 2 ^ (single.precision - 1) % 2 ^ single.exponentBits : ℕ) : ℤ) - 1
      omega

/-- The magnitude of a stored value without a leading one. -/
theorem single_ofBits_of_zero {b : ℕ} (hb : b / 2 ^ 23 % 2 ^ 8 = 0) :
    single.ofBits b = ⟨b % 2 ^ 23, -149⟩ := if_pos hb

/-- The magnitude of a stored value with a leading one. -/
theorem single_ofBits_of_ne_zero {b : ℕ} (hb : b / 2 ^ 23 % 2 ^ 8 ≠ 0) :
    single.ofBits b = ⟨2 ^ 23 + b % 2 ^ 23, -149 + (b / 2 ^ 23 % 2 ^ 8 : ℕ) - 1⟩ := if_neg hb

/-- The exponents of finite values are bounded. -/
theorem exponent_single_ofBits_le {b : ℕ} (hb : single.isFinite b = true) :
    (single.ofBits b).exponent ≤ 104 := by
  rw [Format.isFinite, bne_iff_ne] at hb
  change b / 2 ^ 23 % 2 ^ 8 ≠ 255 at hb
  by_cases hzero : b / 2 ^ 23 % 2 ^ 8 = 0
  · rw [single_ofBits_of_zero hzero]
    norm_num
  · rw [single_ofBits_of_ne_zero hzero]
    change -149 + ((b / 2 ^ 23 % 2 ^ 8 : ℕ) : ℤ) - 1 ≤ 104
    omega

theorem not_overflows_single {x : Magnitude} (hx : x.exponent ≤ 104) :
    ¬ single.overflows x = true := by
  have hgreatest : single.greatestExponent = 104 := by decide
  rw [Format.overflows, hgreatest, decide_eq_true_eq]
  exact not_lt.2 hx

theorem single_bits_of_lt {m : ℕ} {e : ℤ} (he : e ≤ 104) (hm : m < 2 ^ 23) :
    single.bits ⟨m, e⟩ = m :=
  (if_neg (not_overflows_single he)).trans (if_pos hm)

theorem single_bits_of_le {m : ℕ} {e : ℤ} (he : e ≤ 104) (hm : 2 ^ 23 ≤ m) :
    single.bits ⟨m, e⟩ = (e - -149 + 1).toNat * 2 ^ 23 + (m - 2 ^ 23) :=
  (if_neg (not_overflows_single he)).trans (if_neg (not_lt.2 hm))

/-- Sign and magnitude of a finite value give its bits back. -/
theorem single_signedBits_ofBits {b : ℕ} (hlt : b < 2 ^ 32) (hb : single.isFinite b = true) :
    single.signedBits (single.isNegative b) (single.ofBits b) = b := by
  have hexp := exponent_single_ofBits_le hb
  have hsign : (if single.isNegative b then 2 ^ 31 else 0) = b / 2 ^ 31 * 2 ^ 31 := by
    rw [show single.isNegative b = (b / 2 ^ 31 % 2 == 1) from rfl]
    simp only [beq_iff_eq]
    split <;> omega
  change (if single.isNegative b then 2 ^ 31 else 0) + single.bits (single.ofBits b) = b
  rw [hsign]
  by_cases hzero : b / 2 ^ 23 % 2 ^ 8 = 0
  · rw [single_ofBits_of_zero hzero] at hexp ⊢
    rw [single_bits_of_lt hexp (by omega)]
    omega
  · rw [single_ofBits_of_ne_zero hzero] at hexp ⊢
    have hexp' : -149 + ((b / 2 ^ 23 % 2 ^ 8 : ℕ) : ℤ) - 1 ≤ 104 := hexp
    rw [single_bits_of_le hexp' (by omega)]
    omega

end Binary
end ModelPreview
