import ModelPreview.Number.Binary

/-!
# Shortest decimal digits

The decimal written for a floating-point value is the one with the fewest digits among those that
round back to it, and of these the nearest to the value.  The search tries one digit, then two,
and so on; on each decimal grid only the two neighbours of the value have to be looked at.
-/

namespace ModelPreview

-- Powers are those of the natural numbers, whatever other powers are known.
attribute [local instance (high)] instPowNat

/-- The decimal `digits * 10 ^ exponent`. -/
structure Decimal where
  /-- The digits read as one natural number. -/
  digits : Nat
  /-- The power of ten of the last digit. -/
  exponent : Int
  deriving DecidableEq, Repr, Inhabited

/-- The number of decimal digits of a natural number; zero has one. -/
def digitCount (n : Nat) : Nat := (Nat.toDigits 10 n).length

/-- The largest `t` with `10 ^ t ≤ n / d`, for positive `n` and `d`. -/
def log10Quotient (n d : Nat) : Int :=
  if d ≤ n then (digitCount (n / d) : Int) - 1
  else -(digitCount ((d - 1) / n) : Int)

namespace Decimal

/-- Drop trailing zeros, at most as many as given. -/
def trim : Nat → Decimal → Decimal
  | 0, x => x
  | n + 1, x => if x.digits % 10 = 0 ∧ x.digits ≠ 0 then trim n ⟨x.digits / 10, x.exponent + 1⟩ else x

end Decimal

namespace Binary

/-- The reals that round to a magnitude, in quarters of its last place: from `low` to `high`, both
ends included exactly for an even significand. -/
structure RoundingInterval where
  /-- Lower end. -/
  low : Nat
  /-- The magnitude itself. -/
  mid : Nat
  /-- Upper end. -/
  high : Nat
  /-- Whether the ends round to the magnitude as well. -/
  closed : Bool

/-- The rounding interval of a magnitude.  Below a power of two the neighbour is only half as far. -/
def Format.interval (f : Format) (x : Magnitude) : RoundingInterval where
  low := if x.significand = 2 ^ (f.precision - 1) ∧ f.leastExponent < x.exponent
    then 4 * x.significand - 1 else 4 * x.significand - 2
  mid := 4 * x.significand
  high := 4 * x.significand + 2
  closed := x.significand % 2 == 0

/-- The grid point `a`, scaled by `unit`, lies in the interval scaled by `quarter`. -/
def RoundingInterval.holds (i : RoundingInterval) (quarter unit a : Nat) : Bool :=
  if i.closed then i.low * quarter ≤ a * unit && a * unit ≤ i.high * quarter
  else i.low * quarter < a * unit && a * unit < i.high * quarter

/-- The neighbour of the value on the grid of `10 ^ exponent` that rounds back to it; of two such
the nearer, of two equally near the even one. -/
def RoundingInterval.onGrid (i : RoundingInterval) (quarterNum quarterDen : Nat) (exponent : Int) :
    Option Decimal :=
  let unit := 10 ^ exponent.toNat * quarterDen
  let quarter := quarterNum * 10 ^ (-exponent).toNat
  let value := i.mid * quarter
  let a := value / unit
  match i.holds quarter unit a, i.holds quarter unit (a + 1) with
  | true, true =>
    let below := value - a * unit
    let above := (a + 1) * unit - value
    if below < above then some ⟨a, exponent⟩
    else if above < below then some ⟨a + 1, exponent⟩
    else some ⟨a + a % 2, exponent⟩
  | true, false => some ⟨a, exponent⟩
  | false, true => some ⟨a + 1, exponent⟩
  | false, false => none

/-- The shortest decimal that rounds to a positive magnitude, searched with at most `limit` digits. -/
def Format.shortest (f : Format) (limit : Nat) (x : Magnitude) : Decimal :=
  let quarterNum := 2 ^ (x.exponent - 2).toNat
  let quarterDen := 2 ^ (2 - x.exponent).toNat
  let i := f.interval x
  let top := log10Quotient x.num x.den
  let found := (List.range limit).findSome? fun (k : Nat) => i.onGrid quarterNum quarterDen (top - k)
  (found.getD default).trim limit

end Binary
end ModelPreview
