/-!
# Images

An image holds four bytes for every pixel, row by row from the top.

Main definitions:

- `Image`: the pixels with their extent.
- `Image.solid` and `Image.placeholder`: images of one colour, and the checker shown in place of a
  texture that cannot be loaded.
-/

namespace ModelPreview

/-- The colour of a pixel. -/
structure Pixel where
  /-- Red. -/
  r : UInt8
  /-- Green. -/
  g : UInt8
  /-- Blue. -/
  b : UInt8
  /-- Opacity. -/
  a : UInt8
  deriving DecidableEq, Repr, Inhabited

namespace Pixel

/-- The four bytes of a pixel. -/
def toList (p : Pixel) : List UInt8 := [p.r, p.g, p.b, p.a]

/-- Black that cannot be seen. -/
def transparent : Pixel := ⟨0, 0, 0, 0⟩

/-- Bright magenta. -/
def magenta : Pixel := ⟨255, 0, 255, 255⟩

/-- Black. -/
def black : Pixel := ⟨0, 0, 0, 255⟩

/-- White. -/
def white : Pixel := ⟨255, 255, 255, 255⟩

end Pixel

/-- An image. -/
structure Image where
  /-- The number of pixels in a row. -/
  width : UInt32
  /-- The number of rows. -/
  height : UInt32
  /-- The bytes of the pixels. -/
  rgba : ByteArray

/-- Append a pixel some number of times. -/
def pushPixels (p : Pixel) : Nat → ByteArray → ByteArray
  | 0, bytes => bytes
  | n + 1, bytes => pushPixels p n ((((bytes.push p.r).push p.g).push p.b).push p.a)

theorem size_pushPixels (p : Pixel) (n : Nat) (bytes : ByteArray) :
    (pushPixels p n bytes).size = bytes.size + 4 * n := by
  induction n generalizing bytes with
  | zero => rfl
  | succ n ih => simp only [pushPixels, ih, ByteArray.size_push]; omega

namespace Image

/-- The number of pixels.  It is found from the number of bytes, which is a word. -/
def area (width height : UInt32) : Nat := (width * height * 4).toNat / 4

/-- Whether there are four bytes for every pixel. -/
def IsWellFormed (i : Image) : Prop := i.rgba.size = 4 * (i.width.toNat * i.height.toNat)

/-- An image of one colour. -/
def solid (width height : UInt32) (p : Pixel) : Image :=
  ⟨width, height, pushPixels p (area width height) .empty⟩

/-- The colour of the checker at a place. -/
def checker (x y : Nat) : Pixel := if (x / 8 + y / 8) % 2 = 0 then .magenta else .black

/-- The image shown for a texture that cannot be loaded: a checker of magenta and black. -/
def placeholder : Image where
  width := 16
  height := 16
  rgba := ((List.range 16).flatMap fun y =>
    (List.range 16).flatMap fun x => (checker x y).toList).toByteArray

end Image
end ModelPreview
