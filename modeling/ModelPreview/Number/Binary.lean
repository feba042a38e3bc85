/-!
# Binary floating-point formats

A format is described by its precision, the exponent of its last subnormal place and the width of
its exponent field.  A finite value without its sign is a `Magnitude`, a natural number times a
power of two.  Rounding a quotient of natural numbers to the nearest magnitude of a format is
carried out in exact integer arithmetic, and the bit patterns of the two standard formats are
built from magnitudes.

Main definitions:

- `roundDiv`: the integer nearest to a quotient, a tie going to the even one.
- `Format.round`: the magnitude of a format nearest to a quotient.
- `Format.bits` and `Format.ofBits`: the stored form of a magnitude.
-/

namespace ModelPreview

-- Powers are those of the natural numbers, whatever other powers are known.
attribute [local instance (high)] instPowNat

/-- The integer nearest to `n / d`; a tie goes to the even neighbour. -/
def roundDiv (n d : Nat) : Nat :=
  let q := n / d
  let r := n % d
  if 2 * r < d then q
  else if d < 2 * r then q + 1
  else q + q % 2

/-- The largest `k` with `2 ^ k ≤ n / d`, for positive `n` and `d`. -/
def log2Quotient (n d : Nat) : Int :=
  let k : Int := (n.log2 : Int) - d.log2
  if d * 2 ^ k.toNat ≤ n * 2 ^ (-k).toNat then k else k - 1

namespace Binary

/-- The number `significand * 2 ^ exponent`. -/
structure Magnitude where
  /-- The integer factor. -/
  significand : Nat
  /-- The power of two it is scaled by. -/
  exponent : Int
  deriving DecidableEq, Repr, Inhabited

namespace Magnitude

/-- Numerator of the magnitude as a quotient of natural numbers. -/
def num (x : Magnitude) : Nat := x.significand * 2 ^ x.exponent.toNat

/-- Denominator of the magnitude as a quotient of natural numbers. -/
def den (x : Magnitude) : Nat := 2 ^ (-x.exponent).toNat

/-- Whether the magnitude is zero. -/
def isZero (x : Magnitude) : Bool := x.significand == 0

theorem den_pos (x : Magnitude) : 0 < x.den := Nat.two_pow_pos _

end Magnitude

/-- A binary floating-point format with subnormal values and infinities. -/
structure Format where
  /-- Bits of a significand, the leading one included. -/
  precision : Nat
  /-- Exponent of the last place of the smallest positive value. -/
  leastExponent : Int
  /-- Width of the stored exponent. -/
  exponentBits : Nat
  deriving DecidableEq, Repr

/-- The 32-bit format. -/
def single : Format := ⟨24, -149, 8⟩

/-- The 64-bit format. -/
def double : Format := ⟨53, -1074, 11⟩

namespace Format

/-- Exponent of the last place of the largest finite values. -/
def greatestExponent (f : Format) : Int := f.leastExponent + (2 ^ f.exponentBits : Nat) - 3

/-- The magnitude nearest to `n / d`, ties to the even significand.  The exponent is not bounded
above, so overflow shows as an exponent beyond `greatestExponent`. -/
def round (f : Format) (n d : Nat) : Magnitude :=
  if n = 0 then ⟨0, f.leastExponent⟩
  else
    let e := max f.leastExponent (log2Quotient n d - f.precision + 1)
    let m := roundDiv (n * 2 ^ (-e).toNat) (d * 2 ^ e.toNat)
    if m = 2 ^ f.precision then ⟨2 ^ (f.precision - 1), e + 1⟩ else ⟨m, e⟩

/-- The nearest magnitude to another one, such as a value of a wider format. -/
def narrow (f : Format) (x : Magnitude) : Magnitude := f.round x.num x.den

/-- The nearest magnitude to a product. -/
def mul (f : Format) (x y : Magnitude) : Magnitude := f.round (x.num * y.num) (x.den * y.den)

/-- The nearest magnitude to a quotient. -/
def div (f : Format) (x y : Magnitude) : Magnitude := f.round (x.num * y.den) (x.den * y.num)

/-- Whether a rounded magnitude lies beyond the largest finite value. -/
def overflows (f : Format) (x : Magnitude) : Bool := f.greatestExponent < x.exponent

/-- The stored form of a rounded magnitude without its sign; overflow gives infinity. -/
def bits (f : Format) (x : Magnitude) : Nat :=
  let hidden := 2 ^ (f.precision - 1)
  if f.overflows x then (2 ^ f.exponentBits - 1) * hidden
  else if x.significand < hidden then x.significand
  else (x.exponent - f.leastExponent + 1).toNat * hidden + (x.significand - hidden)

/-- The stored form with its sign. -/
def signedBits (f : Format) (negative : Bool) (x : Magnitude) : Nat :=
  (if negative then 2 ^ (f.exponentBits + f.precision - 1) else 0) + f.bits x

/-- The magnitude of a stored finite value, its sign left aside. -/
def ofBits (f : Format) (b : Nat) : Magnitude :=
  let hidden := 2 ^ (f.precision - 1)
  let biased := b / hidden % 2 ^ f.exponentBits
  let fraction := b % hidden
  if biased = 0 then ⟨fraction, f.leastExponent⟩
  else ⟨hidden + fraction, f.leastExponent + biased - 1⟩

/-- Whether the stored value carries a minus sign. -/
def isNegative (f : Format) (b : Nat) : Bool :=
  b / 2 ^ (f.exponentBits + f.precision - 1) % 2 == 1

/-- Whether the stored value is neither infinite nor a NaN. -/
def isFinite (f : Format) (b : Nat) : Bool :=
  b / 2 ^ (f.precision - 1) % 2 ^ f.exponentBits != 2 ^ f.exponentBits - 1

end Format

/-- The 32-bit value with a given sign and magnitude. -/
def toSingle (negative : Bool) (x : Magnitude) : Float32 :=
  .ofBits (UInt32.ofNat (single.signedBits negative (single.narrow x)))

/-- The 64-bit value with a given sign and magnitude. -/
def toDouble (negative : Bool) (x : Magnitude) : Float :=
  .ofBits (UInt64.ofNat (double.signedBits negative (double.narrow x)))

/-- The 32-bit value nearest to a word. -/
def ofWord (n : UInt32) : Float32 := toSingle false ⟨n.toNat, 0⟩

/-- The 32-bit value nearest to a 64-bit one; infinities stay, and every NaN becomes one. -/
def narrow (x : Float) : Float32 :=
  let b := x.toBits.toNat
  let negative := double.isNegative b
  if double.isFinite b then toSingle negative (double.ofBits b)
  else if x.isNaN then .ofBits 0x7fc00000
  else if negative then .ofBits 0xff800000 else .ofBits 0x7f800000

end Binary
end ModelPreview
