import ModelPreview.Texture.Png.Chunk
import ModelPreview.Texture.Png.Color
import ModelPreview.Texture.Png.Stream

/-!
# What can be wrong with an image file
-/

namespace ModelPreview

/-- Why the chunks of a file do not make an image. -/
inductive Png.Fault where
  /-- The checksum of a chunk is another one. -/
  | checksum (stored computed : UInt32) (name : ChunkName)
  /-- A chunk stands in front of the header. -/
  | beforeHeader (name : ChunkName)
  /-- A chunk stands in front of the palette that it needs. -/
  | beforePalette (name : ChunkName)
  /-- A chunk comes twice. -/
  | duplicate (name : ChunkName)
  /-- A chunk holds too few bytes. -/
  | chunkTooShort (name : ChunkName)
  /-- The file ends without rows. -/
  | noRows
  /-- There are fewer rows than the header says. -/
  | missingRows
  /-- An image or frame has no pixels. -/
  | noPixels
  /-- A frame does not lie in the image. -/
  | frameOutside
  /-- The frames are not numbered one after the other. -/
  | sequence (expected present : UInt32)
  /-- Rows of a frame come without the frame. -/
  | strayRows (name : ChunkName)
  /-- A chunk of rows of a frame has no number. -/
  | unnumberedRows
  /-- The number of bits of a channel is none of those that exist. -/
  | bitDepth (n : UInt8)
  /-- The colour type is none of those that exist. -/
  | colorType (n : UInt8)
  /-- The colour type does not go with the number of bits. -/
  | colorDepth (color : ColorType) (depth : BitDepth)
  /-- The stream is packed in an unknown way. -/
  | compression (n : UInt8)
  /-- The rows are filtered in an unknown way. -/
  | filter (n : UInt8)
  /-- The rows are in an unknown order. -/
  | interlace (n : UInt8)
  /-- The transparency is too short for the colour type. -/
  | shortTransparency (expected size : Nat)
  /-- The colour type has opacities of its own. -/
  | opaqueColor (color : ColorType)
  /-- An image with a palette has none. -/
  | noPalette
  /-- The size of a pixel has an unknown unit. -/
  | unit (n : UInt8)
  /-- The rendering intent is unknown. -/
  | intent (n : UInt8)
  /-- It is unknown how a frame is taken away. -/
  | disposal (n : UInt8)
  /-- It is unknown how a frame is laid over the one before. -/
  | blending (n : UInt8)
  /-- The stream of the rows is damaged. -/
  | stream (cause : StreamFault)
  /-- The file uses a feature that textures do not use. -/
  | unsupported
  deriving DecidableEq, Repr

/-- A checksum in messages. -/
def Png.hexText (n : UInt32) : String := String.ofList (Text.hexNumber n.toNat)

/-- The text of a fault. -/
def Png.Fault.message : Png.Fault → String
  | .checksum stored computed name =>
    s!"CRC error: expected 0x{hexText stored} have 0x{hexText computed} " ++
      s!"while decoding {name.describe} chunk."
  | .beforeHeader name => s!"{name.describe} chunk appeared before IHDR chunk"
  | .beforePalette name => s!"Chunk {name.describe} is invalid before PLTE chunk."
  | .duplicate name => s!"Chunk {name.describe} must appear at most once."
  | .chunkTooShort name => s!"Chunk is too short: {name.describe}"
  | .noRows => "IDAT or fdAT chunk is missing."
  | .missingRows => "IDAT or fDAT chunk does not have enough data for image."
  | .noPixels => "Invalid image dimensions"
  | .frameOutside => "Sub frame is out-of-bounds."
  | .sequence expected present =>
    s!"Sequence is not in order, expected #{expected} got #{present}."
  | .strayRows name => s!"Unexpected restart of {name.describe} chunk sequence"
  | .unnumberedRows => "fdAT chunk shorter than 4 bytes"
  | .bitDepth n => s!"Invalid bit depth {n}."
  | .colorType n => s!"Invalid color type {n}."
  | .colorDepth color depth =>
    s!"Invalid color/depth combination in header: {color.name}/{depth.name}"
  | .compression n => s!"Unknown compression method {n}."
  | .filter n => s!"Unknown filter method {n}."
  | .interlace n => s!"Unknown interlace method {n}."
  | .shortTransparency expected size =>
    s!"Not enough palette entries, expect {expected} got {size}."
  | .opaqueColor color => s!"Transparency chunk found for color type {color.name}."
  | .noPalette => "Missing palette of indexed image."
  | .unit n => s!"Invalid physical pixel size unit {n}."
  | .intent n => s!"Invalid sRGB rendering intent {n}."
  | .disposal n => s!"Invalid dispose op {n}."
  | .blending n => s!"Invalid blend op {n}."
  | .stream cause => s!"Corrupt deflate stream. {cause.message}"
  | .unsupported => "Unsupported feature"

/-- Why a file is no image. -/
inductive ImageFault where
  /-- The file does not start like any format. -/
  | unknownFormat
  /-- The file starts like an image of another format. -/
  | otherFormat (name : String)
  /-- The file ends too early. -/
  | truncated
  /-- The pixels would need too much memory. -/
  | tooLarge
  /-- The file is an animation without frames. -/
  | noFrames
  /-- The chunks do not make an image. -/
  | malformed (cause : Png.Fault)
  deriving DecidableEq, Repr

/-- The text of an image fault. -/
def ImageFault.message : ImageFault → String
  | .unknownFormat => "The image format could not be determined"
  | .otherFormat name => s!"The image format {name} is not supported"
  | .truncated => "unexpected end of file"
  | .tooLarge => "Memory limit exceeded"
  | .noFrames => "The parameter is malformed: End of image has been reached"
  | .malformed cause => s!"Format error decoding Png: {cause.message}"

/-- A fault of the chunks is a fault of the image. -/
instance : MonadLift (Except Png.Fault) (Except ImageFault) := ⟨Except.mapError .malformed⟩

end ModelPreview
