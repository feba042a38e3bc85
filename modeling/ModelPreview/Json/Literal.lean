import ModelPreview.Number.Shortest

/-!
# Literals of the JSON grammar

A number literal keeps its digits and a string literal its characters and escaped code units.
Either may be cut short by a fault, which is reported only where the literal is used, so the same
literal can be skipped under the laxer rules for values nobody asks for.

Main definitions:

- `NumberLiteral.value`: the integer or 64-bit number a literal stands for.
- `StringLiteral.text`: the text of a string literal, with surrogate pairs joined.
-/

namespace ModelPreview
namespace Json

/-- Why a text stops being JSON. -/
inductive Fault where
  /-- The text ends too early. -/
  | endOfInput
  /-- A character stands where it may not. -/
  | malformed
  deriving DecidableEq, Repr

/-! ## Numbers -/

/-- A decimal digit. -/
abbrev Digit := Fin 10

/-- The value of a digit character. -/
def digit? (c : Char) : Option Digit :=
  let n := c.toNat - '0'.toNat
  if h : '0' ≤ c ∧ n < 10 then some ⟨n, h.2⟩ else none

/-- The character of a digit. -/
def Digit.char (d : Digit) : Char := Char.ofNat ('0'.toNat + d.val)

/-- The digits of a natural number, most significant first. -/
def digitsOf (n : Nat) : List Digit := (Nat.toDigits 10 n).filterMap digit?

/-- The natural number with the given digits. -/
def natOfDigits (ds : List Digit) : Nat := ds.foldl (fun n d => 10 * n + d.val) 0

/-- A number as it is written: sign, integer digits, and optional fraction and exponent. -/
structure NumberLiteral where
  /-- Whether a minus sign stands in front. -/
  negative : Bool
  /-- The digits before the point. -/
  whole : List Digit
  /-- The digits after the point, if there is one. -/
  fraction : Option (List Digit)
  /-- Sign and digits of the exponent, if there is one. -/
  exponent : Option (Bool × List Digit)
  /-- Set if the literal breaks off. -/
  fault : Option Fault
  deriving DecidableEq, Repr

/-- What a number literal stands for. -/
inductive Number where
  /-- A natural number below `2 ^ 64`. -/
  | natural (n : Nat)
  /-- The negative integer `-n`, for `n` from 1 to `2 ^ 63`. -/
  | negative (n : Nat)
  /-- A 64-bit floating-point number. -/
  | real (negative : Bool) (magnitude : Binary.Magnitude)
  deriving DecidableEq, Repr

namespace Number

/-- The nearest 32-bit value. -/
def toSingle : Number → Float32
  | natural n => Binary.toSingle false ⟨n, 0⟩
  | negative n => Binary.toSingle true ⟨n, 0⟩
  | real s x => Binary.toSingle s x

/-- The nearest 64-bit value. -/
def toDouble : Number → Float
  | natural n => Binary.toDouble false ⟨n, 0⟩
  | negative n => Binary.toDouble true ⟨n, 0⟩
  | real s x => Binary.toDouble s x

end Number

/-- The largest significand that is accumulated exactly. -/
def maxSignificand : Nat := 0xffffffffffffffff

/-- The largest exponent that is accumulated exactly. -/
def maxExponent : Nat := 0x7fffffff

/-- Append digits to a number as long as it stays within a limit; the digits left over are returned. -/
def accumulate (limit : Nat) (n : Nat) : List Digit → Nat × List Digit
  | [] => (n, [])
  | d :: ds => if 10 * n + d.val ≤ limit then accumulate limit (10 * n + d.val) ds else (n, d :: ds)

/-- The power of ten in the 64-bit format. -/
def powerOfTen (k : Nat) : Binary.Magnitude := Binary.double.round (Nat.pow 10 k) 1

/-- Scale a 64-bit magnitude by a power of ten, each step rounded; `none` on overflow.  The powers
of ten in range are applied in one step, a smaller one in several. -/
def scale (x : Binary.Magnitude) (e : Int) : Option Binary.Magnitude :=
  if e < -308 then
    if x.isZero then some x else scale (Binary.double.div x (powerOfTen 308)) (e + 308)
  else if e < 0 then some (Binary.double.div x (powerOfTen (-e).toNat))
  else if e ≤ 308 then
    let y := Binary.double.mul x (powerOfTen e.toNat)
    if Binary.double.overflows y then none else some y
  else if x.isZero then some x
  else none
termination_by (-e).toNat
decreasing_by omega

namespace NumberLiteral

/-- The significand of the literal and the power of ten that goes with it.  Digits that no longer
fit are dropped, those before the point counting into the power of ten. -/
def scientific (l : NumberLiteral) : Nat × Int :=
  let (n, dropped) := accumulate maxSignificand 0 l.whole
  match l.fraction with
  | none => (n, dropped.length)
  | some ds =>
    let (m, rest) := accumulate maxSignificand n ds
    (m, (dropped.length : Int) - (ds.length - rest.length : Nat))

/-- The 64-bit magnitude of the literal; `none` if it is out of range. -/
def magnitude (l : NumberLiteral) : Option Binary.Magnitude :=
  let (n, e) := l.scientific
  let x := Binary.double.round n 1
  match l.exponent with
  | none => scale x e
  | some (minus, ds) =>
    match accumulate maxExponent 0 ds with
    | (k, []) => scale x (if minus then e - k else e + k)
    | (_, _ :: _) => if n = 0 ∨ minus then some ⟨0, Binary.double.leastExponent⟩ else none

/-- Whether the literal is written as an integer. -/
def isInteger (l : NumberLiteral) : Bool := l.fraction.isNone && l.exponent.isNone

/-- What the literal stands for.  An integer in range stays one, except for minus zero. -/
def value (l : NumberLiteral) : Except Fault Number :=
  match l.fault with
  | some f => .error f
  | none =>
    let n := natOfDigits l.whole
    if l.isInteger ∧ ¬ l.negative ∧ n ≤ maxSignificand then .ok (.natural n)
    else if l.isInteger ∧ l.negative ∧ 0 < n ∧ n ≤ 0x8000000000000000 then .ok (.negative n)
    else match l.magnitude with
      | some x => .ok (.real l.negative x)
      | none => .error .malformed

/-- A literal may be skipped if it is complete; its range does not matter. -/
def skip (l : NumberLiteral) : Except Fault Unit :=
  match l.fault with
  | some _ => .error .malformed
  | none => .ok ()

/-- The literal of a natural number. -/
def ofNat (n : Nat) : NumberLiteral := ⟨false, digitsOf n, none, none, none⟩

end NumberLiteral

/-- Which decimal exponents are written with a point and without a power of ten. -/
structure Layout where
  /-- The least exponent written positionally. -/
  least : Int
  /-- The greatest exponent written positionally. -/
  greatest : Int

namespace Layout

/-- Values of the 32-bit format are positional from `0.000001` to `1000000000000.0`. -/
def single : Layout := ⟨-6, 12⟩

/-- Values of the 64-bit format are positional from `0.00001` to `1000000000000000.0`. -/
def double : Layout := ⟨-5, 15⟩

/-- The literal of a decimal, always with a point or an exponent. -/
def literal (y : Layout) (negative : Bool) (x : Decimal) : NumberLiteral :=
  let ds := digitsOf x.digits
  let e : Int := x.exponent + ds.length - 1
  if y.least ≤ e ∧ e ≤ y.greatest then
    if e < 0 then ⟨negative, [0], some (List.replicate (-e - 1).toNat 0 ++ ds), none, none⟩
    else
      let k := e.toNat + 1
      let whole := ds.take k ++ List.replicate (k - ds.length) 0
      let rest := ds.drop k
      ⟨negative, whole, some (if rest.isEmpty then [0] else rest), none, none⟩
  else
    let rest := ds.drop 1
    ⟨negative, ds.take 1, if rest.isEmpty then none else some rest,
      some (e < 0, digitsOf e.natAbs), none⟩

end Layout

/-- The literal of zero, with its sign. -/
def NumberLiteral.zero (negative : Bool) : NumberLiteral := ⟨negative, [0], some [0], none, none⟩

/-- The literal of a 64-bit magnitude. -/
def NumberLiteral.ofDouble (negative : Bool) (x : Binary.Magnitude) : NumberLiteral :=
  if x.isZero then .zero negative
  else Layout.double.literal negative (Binary.double.shortest 17 x)

/-- The literal of a 32-bit value; `none` for infinities and NaN, which have none. -/
def NumberLiteral.ofSingle? (x : Float32) : Option NumberLiteral :=
  let b := x.toBits.toNat
  if Binary.single.isFinite b then
    let m := Binary.single.ofBits b
    let negative := Binary.single.isNegative b
    some (if m.isZero then .zero negative
      else Layout.single.literal negative (Binary.single.shortest 9 m))
  else none

/-! ## Strings -/

/-- One piece of a string literal. -/
inductive StringPart where
  /-- A character, written plainly or by a short escape. -/
  | char (c : Char)
  /-- A UTF-16 code unit written by a numeric escape. -/
  | unit (u : Nat)
  deriving DecidableEq, Repr

/-- A string as it is written. -/
structure StringLiteral where
  /-- The pieces in order. -/
  parts : List StringPart
  /-- Set if the literal breaks off after its pieces. -/
  fault : Option Fault
  deriving DecidableEq, Repr

/-- Whether a code unit opens a surrogate pair. -/
def isLeading (u : Nat) : Bool := 0xD800 ≤ u && u ≤ 0xDBFF

/-- Whether a code unit closes a surrogate pair. -/
def isTrailing (u : Nat) : Bool := 0xDC00 ≤ u && u ≤ 0xDFFF

/-- The character of a surrogate pair. -/
def joinPair (u v : Nat) : Char := Char.ofNat (0x10000 + (u - 0xD800) * 0x400 + (v - 0xDC00))

namespace StringLiteral

/-- The characters of the pieces.  A surrogate without its partner is malformed, unless the text
ends before the partner could follow. -/
def chars (fault : Option Fault) : List StringPart → Except Fault (List Char)
  | [] =>
    match fault with
    | some f => .error f
    | none => .ok []
  | .char c :: ps => do return c :: (← chars fault ps)
  | [.unit u] =>
    if isTrailing u then .error .malformed
    else if isLeading u then .error (if fault = some .endOfInput then .endOfInput else .malformed)
    else do return Char.ofNat u :: (← chars fault [])
  | .unit u :: .unit v :: ps =>
    if isTrailing u then .error .malformed
    else if isLeading u then
      if isTrailing v then do return joinPair u v :: (← chars fault ps) else .error .malformed
    else do return Char.ofNat u :: (← chars fault (.unit v :: ps))
  | .unit u :: .char c :: ps =>
    if isTrailing u || isLeading u then .error .malformed
    else do return Char.ofNat u :: (← chars fault (.char c :: ps))

/-- The text of the literal. -/
def text (l : StringLiteral) : Except Fault String := String.ofList <$> chars l.fault l.parts

/-- A literal may be skipped if it is complete; its surrogates do not matter. -/
def skip (l : StringLiteral) : Except Fault Unit :=
  match l.fault with
  | some f => .error f
  | none => .ok ()

/-- The literal of a text. -/
def ofText (s : String) : StringLiteral := ⟨s.toList.map .char, none⟩

/-- The literal that stands for a string nothing was read of. -/
def broken (f : Fault) : StringLiteral := ⟨[], some f⟩

end StringLiteral

/-- A word of the grammar. -/
inductive Word where
  /-- The word `null`. -/
  | null
  /-- The word `true`. -/
  | true
  /-- The word `false`. -/
  | false
  deriving DecidableEq, Repr

/-- How a word is written. -/
def Word.spelling : Word → List Char
  | .null => ['n', 'u', 'l', 'l']
  | .true => ['t', 'r', 'u', 'e']
  | .false => ['f', 'a', 'l', 's', 'e']

end Json
end ModelPreview
