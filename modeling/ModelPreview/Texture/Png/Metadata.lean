import ModelPreview.Texture.Png.Fault

/-!
# What precedes the rows

The chunks in front of the rows say how large the image is, how its pixels are stored, and, for an
animation, which part of the image the first frame covers.  A chunk without bytes says nothing,
whatever its name is.

Main definitions:

- `Png.Metadata`: what the chunks have said so far.
- `Png.Metadata.ofHeader`: what the header says.
- `Png.Metadata.add`: take note of one more chunk.
-/

namespace ModelPreview
namespace Png

/-- The part of the image that a frame covers. -/
structure Frame where
  /-- The number of the frame among the chunks of the animation. -/
  sequence : UInt32
  /-- The number of pixels in a row. -/
  width : UInt32
  /-- The number of rows. -/
  height : UInt32
  deriving DecidableEq, Repr

/-- What the chunks in front of the rows say. -/
structure Metadata where
  /-- The number of pixels in a row of the image. -/
  width : UInt32
  /-- The number of rows of the image. -/
  height : UInt32
  /-- How pixels are stored. -/
  color : ColorType
  /-- The palette. -/
  palette : Option (List UInt8) := none
  /-- The opacities of the palette, or the pixel that cannot be seen. -/
  transparency : Option (List UInt8) := none
  /-- The chunks that have come and may not come again. -/
  seen : List ChunkName := []
  /-- The number of frames, if the file is an animation. -/
  frameCount : Option UInt32 := none
  /-- The frame that comes next, if one was announced. -/
  frame : Option Frame := none
  deriving DecidableEq, Repr

/-- A field of a chunk, which has to be there. -/
def field {α : Type} (name : ChunkName) (read : List UInt8 → Option (α × List UInt8))
    (data : List UInt8) : Except Fault (α × List UInt8) :=
  match read data with
  | some found => .ok found
  | none => .error (.chunkTooShort name)

/-- Refuse a chunk unless a condition holds. -/
def require (holds : Bool) (fault : Fault) : Except Fault Unit :=
  if holds then .ok () else .error fault

/-! ## The header -/

/-- Read extent and form of the image. -/
def Metadata.ofHeader (data : List UInt8) : Except Fault Metadata := do
  let (width, data) ← field .header word? data
  let (height, data) ← field .header word? data
  require (width ≠ 0 && height ≠ 0) .noPixels
  let (bits, data) ← field .header byte? data
  let some depth := BitDepth.ofNumber? bits | .error (.bitDepth bits)
  let (number, data) ← field .header byte? data
  let some color := ColorType.ofNumber? number | .error (.colorType number)
  require (depth.isValidFor color) (.colorDepth color depth)
  let (compression, data) ← field .header byte? data
  require (compression = 0) (.compression compression)
  let (filter, data) ← field .header byte? data
  require (filter = 0) (.filter filter)
  let (interlace, _) ← field .header byte? data
  require (interlace ≤ 1) (.interlace interlace)
  require (depth = .eight && interlace = 0) .unsupported
  return { width, height, color }

/-! ## Other chunks -/

namespace Metadata

/-- Take note of a chunk that may come only once. -/
def once (m : Metadata) (name : ChunkName) : Except Fault Metadata :=
  if name ∈ m.seen then .error (.duplicate name) else .ok { m with seen := name :: m.seen }

/-- The pixel that cannot be seen, or the opacities of the palette. -/
def readTransparency (m : Metadata) (data : List UInt8) : Except Fault (List UInt8) :=
  match m.color, data with
  | .gray, _ :: y :: _ => .ok [y]
  | .gray, data => .error (.shortTransparency 2 data.length)
  | .rgb, _ :: r :: _ :: g :: _ :: b :: _ => .ok [r, g, b]
  | .rgb, data => .error (.shortTransparency 6 data.length)
  | .indexed, data => if m.palette.isSome then .ok data else .error (.beforePalette .transparency)
  | color, _ => .error (.opaqueColor color)

/-- The number that the next chunk of the animation has to bear. -/
def nextSequence (m : Metadata) : UInt32 :=
  match m.frame with
  | none => 0
  | some f => f.sequence + 1

/-- Whether a part of the image of the given extent and offset lies inside, in one direction. -/
def fits (extent offset whole : UInt32) : Bool := extent.toNat + offset.toNat ≤ whole.toNat

/-- Read place and extent of a frame. -/
def readFrame (m : Metadata) (data : List UInt8) : Except Fault Frame := do
  let (sequence, data) ← field .frame word? data
  require (sequence = m.nextSequence) (.sequence m.nextSequence sequence)
  let (width, data) ← field .frame word? data
  let (height, data) ← field .frame word? data
  let (x, data) ← field .frame word? data
  let (y, data) ← field .frame word? data
  let (_, data) ← field .frame word? data
  let (disposal, data) ← field .frame byte? data
  require (disposal ≤ 2) (.disposal disposal)
  let (blending, _) ← field .frame byte? data
  require (blending ≤ 1) (.blending blending)
  require (width ≠ 0 && height ≠ 0) .noPixels
  require (fits width x m.width && fits height y m.height) .frameOutside
  return ⟨sequence, width, height⟩

/-- The size of the eight coordinates of the primaries. -/
def primariesSize : Nat := 32

/-- Take note of a chunk with a name and some bytes. -/
def note (m : Metadata) (name : ChunkName) (data : List UInt8) : Except Fault Metadata :=
  if name = .header then .error (.duplicate .header)
  else if name = .palette then
    if m.palette.isSome then .error (.duplicate .palette)
    else .ok { m with palette := some data }
  else if name = .transparency then
    if m.transparency.isSome then .error (.duplicate .palette)
    else do return { m with transparency := some (← m.readTransparency data) }
  else if name = .pixelSize then do
    let m ← m.once name
    let (_, data) ← field name word? data
    let (_, data) ← field name word? data
    let (unit, _) ← field name byte? data
    require (unit ≤ 1) (.unit unit)
    return m
  else if name = .gamma then do
    let m ← m.once name
    let _ ← field name word? data
    return m
  else if name = .primaries then do
    let m ← m.once name
    let _ ← field name (split? primariesSize) data
    return m
  else if name = .intent then do
    let m ← m.once name
    let (intent, _) ← field name byte? data
    require (intent ≤ 3) (.intent intent)
    return m
  else if name = .animation then do
    let (count, data) ← field name word? data
    let _ ← field name word? data
    return { m with frameCount := some count }
  else if name = .frame then do
    return { m with frame := some (← m.readFrame data) }
  else .ok m

/-- Take note of one more chunk; one without bytes says nothing. -/
def add (m : Metadata) (name : ChunkName) (data : List UInt8) : Except Fault Metadata :=
  if data.isEmpty then .ok m else m.note name data

/-! ## The first image -/

/-- The number of pixels in a row of the first image. -/
def rowWidth (m : Metadata) : Nat := (m.frame.elim m.width Frame.width).toNat

/-- The number of rows of the first image. -/
def rowCount (m : Metadata) : Nat := (m.frame.elim m.height Frame.height).toNat

/-- The number of bytes of a row of the first image, with the kind of its filter. -/
def rowBytes (m : Metadata) : Nat := 1 + m.rowWidth * m.color.channels

/-- Whether there is a first image: an animation that starts with a frame has to have frames. -/
def hasImage (m : Metadata) : Bool := !(m.frameCount = some 0 && m.frame.isSome)

/-- Whether pixels may be anything else than opaque. -/
def hasAlpha (m : Metadata) : Bool := m.color.hasAlpha || m.transparency.isSome

/-- The number of bytes of all pixels before they are brought into one form. -/
def byteCount (m : Metadata) : Nat :=
  m.width.toNat * m.height.toNat
    * (m.color.expandedChannels + if m.transparency.isSome then 1 else 0)

end Metadata
end Png
end ModelPreview
