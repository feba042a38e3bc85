import ModelPreview.Text.Quoted

/-!
# Chunks of image files

An image file is a sequence of chunks.  Each has a size, a name of four letters, as many bytes as the
size says, and a checksum of the name and the bytes.  The case of the letters says what a reader may
do with a chunk that it does not know.

Main definitions:

- `Png.ChunkName`: the names, and what the case of their letters says.
- `Png.checksum`: the cyclic redundancy check of a chunk.
- `Png.chunkStart?`: size and name of the next chunk.
-/

namespace ModelPreview
namespace Png

/-! ## Bytes -/

/-- The first byte and those behind it. -/
def byte? : List UInt8 → Option (UInt8 × List UInt8)
  | [] => none
  | b :: rest => some (b, rest)

/-- A 32-bit number, the high byte first, and the bytes behind it. -/
def word? : List UInt8 → Option (UInt32 × List UInt8)
  | a :: b :: c :: d :: rest =>
    some ((a.toUInt32 <<< 24) ||| (b.toUInt32 <<< 16) ||| (c.toUInt32 <<< 8) ||| d.toUInt32, rest)
  | _ => none

/-- The first bytes and those behind them, if there are enough. -/
def split? (n : Nat) (bytes : List UInt8) : Option (List UInt8 × List UInt8) :=
  if n ≤ bytes.length then some (bytes.take n, bytes.drop n) else none

/-! ## Names -/

/-- The four letters that say what a chunk holds. -/
structure ChunkName where
  /-- The letter that says whether an image can do without the chunk. -/
  first : Char
  /-- The letter that says whether the name is a private one. -/
  second : Char
  /-- The letter whose case has no meaning yet. -/
  third : Char
  /-- The letter that says whether the chunk may be kept when others change. -/
  fourth : Char
  deriving DecidableEq, Repr

namespace ChunkName

/-- Extent and form of the image. -/
def header : ChunkName := ⟨'I', 'H', 'D', 'R'⟩

/-- The colours of an image with a palette. -/
def palette : ChunkName := ⟨'P', 'L', 'T', 'E'⟩

/-- The opacities of the colours, or the colour that cannot be seen. -/
def transparency : ChunkName := ⟨'t', 'R', 'N', 'S'⟩

/-- The size of a pixel on paper. -/
def pixelSize : ChunkName := ⟨'p', 'H', 'Y', 's'⟩

/-- The exponent of the brightness. -/
def gamma : ChunkName := ⟨'g', 'A', 'M', 'A'⟩

/-- The colours of the white point and the primaries. -/
def primaries : ChunkName := ⟨'c', 'H', 'R', 'M'⟩

/-- The rendering intent. -/
def intent : ChunkName := ⟨'s', 'R', 'G', 'B'⟩

/-- The number of frames of an animation. -/
def animation : ChunkName := ⟨'a', 'c', 'T', 'L'⟩

/-- Place and extent of a frame. -/
def frame : ChunkName := ⟨'f', 'c', 'T', 'L'⟩

/-- A piece of the stream of rows. -/
def rows : ChunkName := ⟨'I', 'D', 'A', 'T'⟩

/-- A piece of the stream of rows of a frame, behind a number. -/
def frameRows : ChunkName := ⟨'f', 'd', 'A', 'T'⟩

/-- The end of the file. -/
def finish : ChunkName := ⟨'I', 'E', 'N', 'D'⟩

/-- The name as it stands in a file. -/
def bytes (n : ChunkName) : List UInt8 :=
  [n.first.toUInt8, n.second.toUInt8, n.third.toUInt8, n.fourth.toUInt8]

/-- The bit by which small letters differ from capitals. -/
def isSmall (c : Char) : Bool := c.toNat &&& 0x20 ≠ 0

/-- Whether an image can do without chunks of this name. -/
def isOptional (n : ChunkName) : Bool := isSmall n.first

/-- A letter of a name in a message. -/
def letterText (c : Char) : String :=
  if c.toNat = 39 then "\\'" else String.ofList (Text.quoteChar c)

/-- The name in a message, with what its letters say. -/
def describe (n : ChunkName) : String :=
  let letters := [n.first, n.second, n.third, n.fourth]
  s!"ChunkType \x7b type: {String.join (letters.map letterText)}, critical: {!n.isOptional}, " ++
    s!"private: {isSmall n.second}, reserved: {isSmall n.third}, safecopy: {isSmall n.fourth} \x7d"

end ChunkName

/-! ## Checksums -/

/-- One bit of the checksum. -/
def checksumBit (c : UInt32) : UInt32 := if c &&& 1 = 1 then (c >>> 1) ^^^ 0xedb88320 else c >>> 1

/-- One byte of the checksum. -/
def checksumByte (c : UInt32) (b : UInt8) : UInt32 :=
  (List.range 8).foldl (fun c _ => checksumBit c) (c ^^^ b.toUInt32)

/-- The 32-bit cyclic redundancy check. -/
def checksum (bytes : List UInt8) : UInt32 := bytes.foldl checksumByte 0xffffffff ^^^ 0xffffffff

/-! ## The start of a chunk -/

/-- The start of a chunk. -/
structure ChunkStart where
  /-- The number of bytes it holds. -/
  size : Nat
  /-- Its name. -/
  name : ChunkName
  /-- The bytes behind its name. -/
  rest : List UInt8

/-- Read the start of a chunk. -/
def chunkStart? (bytes : List UInt8) : Option ChunkStart :=
  match word? bytes with
  | some (size, a :: b :: c :: d :: rest) =>
    some ⟨size.toNat, ⟨.ofNat a.toNat, .ofNat b.toNat, .ofNat c.toNat, .ofNat d.toNat⟩, rest⟩
  | _ => none

end Png
end ModelPreview
