import ModelPreview.Texture.Png.RowReader

/-!
# Portable network graphics

Textures are stored as PNG files: a signature followed by chunks.  Read is the first image of a file
with eight bits per channel, without interlacing, whose stream holds its blocks as they are.  Of
several faults the one that stands first in the file counts.

Main definitions:

- `Png.untilRows`: the chunks in front of the rows.
- `Png.readRows`: the chunks of rows.
- `Png.decode`: the image in a file.
-/

namespace ModelPreview
namespace Png

/-- The bytes every file starts with. -/
def signature : List UInt8 := [0x89, 0x50, 0x4e, 0x47, 0x0d, 0x0a, 0x1a, 0x0a]

/-- How files of other formats start, with the names of the formats. -/
def otherFormats : List (List UInt8 × String) := [
  ([0xff, 0xd8, 0xff], "Jpeg"),
  ([0x47, 0x49, 0x46, 0x38, 0x39, 0x61], "Gif"),
  ([0x47, 0x49, 0x46, 0x38, 0x37, 0x61], "Gif"),
  ([0x52, 0x49, 0x46, 0x46], "WebP"),
  ([0x4d, 0x4d, 0x00, 0x2a], "Tiff"),
  ([0x49, 0x49, 0x2a, 0x00], "Tiff"),
  ([0x44, 0x44, 0x53, 0x20], "Dds"),
  ([0x42, 0x4d], "Bmp"),
  ([0x00, 0x00, 0x01, 0x00], "Ico"),
  ([0x23, 0x3f, 0x52, 0x41, 0x44, 0x49, 0x41, 0x4e, 0x43, 0x45], "Hdr"),
  ([0x50, 0x31], "Pnm"), ([0x50, 0x32], "Pnm"), ([0x50, 0x33], "Pnm"), ([0x50, 0x34], "Pnm"),
  ([0x50, 0x35], "Pnm"), ([0x50, 0x36], "Pnm"), ([0x50, 0x37], "Pnm"),
  ([0x66, 0x61, 0x72, 0x62, 0x66, 0x65, 0x6c, 0x64], "Farbfeld"),
  ([0x00, 0x00, 0x00, 0x20, 0x66, 0x74, 0x79, 0x70, 0x61, 0x76, 0x69, 0x66], "Avif"),
  ([0x00, 0x00, 0x00, 0x1c, 0x66, 0x74, 0x79, 0x70, 0x61, 0x76, 0x69, 0x66], "Avif"),
  ([0x76, 0x2f, 0x31, 0x01], "OpenExr"),
  ([0x71, 0x6f, 0x69, 0x66], "Qoi")]

/-- Why a file that does not start with the signature is no image. -/
def formatFault (bytes : List UInt8) : ImageFault :=
  match otherFormats.find? fun f => f.1.isPrefixOf bytes with
  | some (_, name) => .otherFormat name
  | none => .unknownFormat

/-! ## Walking over the chunks -/

/-- The contents of a chunk and the bytes behind them, of which there has to be one. -/
def ChunkStart.contents (s : ChunkStart) : Except ImageFault (List UInt8 × List UInt8) :=
  match split? s.size s.rest with
  | some (data, next :: rest) => .ok (data, next :: rest)
  | _ => .error .truncated

/-- The bytes behind the checksum that follows the contents of a chunk.  The checksum of a chunk that
an image can do without may be wrong. -/
def ChunkStart.close (s : ChunkStart) (data rest : List UInt8) : Except ImageFault (List UInt8) :=
  match word? rest with
  | none => .error .truncated
  | some (stored, rest) =>
    let computed := checksum (s.name.bytes ++ data)
    if stored = computed ∨ s.name.isOptional then .ok rest
    else .error (.malformed (.checksum stored computed s.name))

/-- The number of bytes that can be counted. -/
def countableBytes : Nat := 0x10000000000000000

/-- What the header says, and the bytes behind it; looks at no more chunks than given. -/
def findHeader : Nat → List UInt8 → Except ImageFault (Metadata × List UInt8)
  | 0, _ => .error .truncated
  | n + 1, bytes => do
    let some start := chunkStart? bytes | .error .truncated
    if start.name = .header then
      let (data, rest) ← start.contents
      if data.isEmpty then findHeader n (← start.close data rest)
      else
        let m ← Metadata.ofHeader data
        if countableBytes ≤ m.byteCount then .error .tooLarge
        else return (m, ← start.close data rest)
    else .error (.malformed (.beforeHeader start.name))

/-- Refuse a chunk of rows that cannot stand where it does. -/
def ChunkStart.checkRows (s : ChunkStart) (m : Metadata) : Except Fault Unit := do
  if s.name = .frameRows then
    require m.frame.isSome (.strayRows s.name)
    require (4 ≤ s.size) .unnumberedRows

/-- What the chunks in front of the rows say, the name of the chunks with the rows, and the bytes from
there on; looks at no more chunks than given. -/
def untilRows (m : Metadata) : Nat → List UInt8 →
    Except ImageFault (Metadata × ChunkName × List UInt8)
  | 0, _ => .error .truncated
  | n + 1, bytes => do
    let some start := chunkStart? bytes | .error .truncated
    if start.name = .rows ∨ start.name = .frameRows then
      start.checkRows m
      return (m, start.name, bytes)
    else
      let (data, rest) ← start.contents
      let m ← m.add start.name data
      let rest ← start.close data rest
      if start.name = .finish then .error (.malformed .noRows) else untilRows m n rest

/-! ## The chunks of rows -/

/-- The piece of the stream in a chunk of rows, as far as the file goes.  Chunks of frames bear a
number in front of it. -/
def ChunkStart.piece (s : ChunkStart) (sequence : UInt32) : Except ImageFault (List UInt8) :=
  if s.name = .frameRows then
    match word? s.rest with
    | some (number, next :: rest) =>
      if number = sequence then .ok ((next :: rest).take (s.size - 4))
      else .error (.malformed (.sequence sequence number))
    | some (number, []) =>
      .error (if number = sequence then .truncated else .malformed (.sequence sequence number))
    | none => .error .truncated
  else if s.rest.isEmpty then .error .truncated
  else .ok (s.rest.take s.size)

/-- Read the chunks of rows until another chunk starts; looks at no more chunks than given. -/
def readRows (m : Metadata) (name : ChunkName) :
    Nat → UInt32 → RowReader → List UInt8 → Except ImageFault RowReader
  | 0, _, _, _ => .error .truncated
  | n + 1, sequence, r, bytes => do
    let some start := chunkStart? bytes | .error .truncated
    if start.name = name then
      start.checkRows m
      let r ← r.feed m (← start.piece sequence)
      let (data, rest) ← start.contents
      readRows m name n (sequence + 1) r (← start.close data rest)
    else r.finish m

/-! ## Images -/

/-- How many bytes the pixels of an image may take. -/
def maxImageBytes : Nat := 512 * 1024 * 1024

/-- The image in a file.  The rows of a frame that is smaller than the image follow each other
without a gap, from the first pixel on. -/
def decode (file : ByteArray) : Except ImageFault Image := do
  let bytes := file.toList
  if signature.isPrefixOf bytes then
    let (m, rest) ← findHeader bytes.length (bytes.drop signature.length)
    let (m, name, rest) ← untilRows m bytes.length rest
    if maxImageBytes < m.byteCount then .error .tooLarge
    else if m.hasImage then
      let r ← readRows m name rest.length m.nextSequence (.start m) rest
      let uncovered := m.width.toNat * m.height.toNat - m.rowWidth * m.rowCount
      return ⟨m.width, m.height, pushPixels m.background uncovered r.rgba⟩
    else .error .noFrames
  else .error (formatFault bytes)

end Png
end ModelPreview
