/-!
# How pixels are stored

The header of an image file gives the channels of a pixel and the number of bits of a channel by
numbers.
-/

namespace ModelPreview
namespace Png

/-- How the channels of a pixel are stored. -/
inductive ColorType where
  /-- A shade of grey. -/
  | gray
  /-- Three colours. -/
  | rgb
  /-- An index into the palette. -/
  | indexed
  /-- A shade of grey with its opacity. -/
  | grayAlpha
  /-- Three colours with their opacity. -/
  | rgba
  deriving DecidableEq, Repr

namespace ColorType

/-- The colour type with a given number. -/
def ofNumber? (n : UInt8) : Option ColorType :=
  [(0, gray), (2, rgb), (3, indexed), (4, grayAlpha), (6, rgba)].lookup n

/-- The number of channels of a pixel. -/
def channels : ColorType → Nat
  | gray => 1
  | rgb => 3
  | indexed => 1
  | grayAlpha => 2
  | rgba => 4

/-- The number of channels once colours are looked up in the palette, without added opacity. -/
def expandedChannels : ColorType → Nat
  | indexed => 3
  | color => color.channels

/-- Whether a pixel stores its own opacity. -/
def hasAlpha : ColorType → Bool
  | grayAlpha | rgba => true
  | gray | rgb | indexed => false

/-- The name of a colour type in messages. -/
def name : ColorType → String
  | gray => "Grayscale"
  | rgb => "Rgb"
  | indexed => "Indexed"
  | grayAlpha => "GrayscaleAlpha"
  | rgba => "Rgba"

end ColorType

/-- The number of bits of a channel. -/
inductive BitDepth where
  /-- One bit. -/
  | one
  /-- Two bits. -/
  | two
  /-- Four bits. -/
  | four
  /-- Eight bits. -/
  | eight
  /-- Sixteen bits. -/
  | sixteen
  deriving DecidableEq, Repr

namespace BitDepth

/-- The depth with a given number of bits. -/
def ofNumber? (n : UInt8) : Option BitDepth :=
  [(1, one), (2, two), (4, four), (8, eight), (16, sixteen)].lookup n

/-- The name of a depth in messages. -/
def name : BitDepth → String
  | one => "One"
  | two => "Two"
  | four => "Four"
  | eight => "Eight"
  | sixteen => "Sixteen"

/-- Whether pixels of a colour type may be stored with this depth. -/
def isValidFor : BitDepth → ColorType → Bool
  | eight, _ => true
  | sixteen, color => color ≠ .indexed
  | one, color | two, color | four, color => color = .gray || color = .indexed

end BitDepth
end Png
end ModelPreview
