/-!
# The stream of rows

The rows of an image are packed into a stream: two bytes of header, a sequence of blocks, and a
checksum that is not compared.  Unpacked are streams whose blocks are stored as they are.  The bytes
of a stream come in pieces, and the contents are handed out as soon as they are known.

Main definitions:

- `Png.Inflater`: how far a stream is unpacked.
- `Png.Inflater.run`: unpack as much of a piece as there is room for.
-/

namespace ModelPreview
namespace Png

/-- Why a stream cannot be unpacked. -/
inductive StreamFault where
  /-- The stream does not start as one. -/
  | badHeader
  /-- A block is of no known type. -/
  | badBlockType
  /-- The two sizes of a block do not agree. -/
  | badBlockSize
  /-- A block is compressed. -/
  | compressedBlock
  /-- The stream ends too early. -/
  | tooShort
  deriving DecidableEq, Repr

/-- The text of a stream fault. -/
def StreamFault.message : StreamFault → String
  | .badHeader => "BadZlibHeader"
  | .badBlockType => "InvalidBlockType"
  | .badBlockSize => "InvalidUncompressedBlockLength"
  | .compressedBlock => "CompressedBlock"
  | .tooShort => "InsufficientInput"

/-- What comes next in a stream. -/
inductive StreamPhase where
  /-- The header of the stream. -/
  | start
  /-- The header of a block. -/
  | block
  /-- The given number of bytes of a block, which may be the last one. -/
  | stored (left : Nat) (last : Bool)
  /-- The checksum. -/
  | checksum
  /-- Nothing. -/
  | done
  deriving DecidableEq, Repr

/-- How far a stream is unpacked. -/
structure Inflater where
  /-- What comes next. -/
  phase : StreamPhase := .start
  /-- Bytes that were read ahead. -/
  held : List UInt8 := []
  deriving DecidableEq, Repr

/-- The outcome of unpacking: what comes next, the bytes that were not needed, and the contents. -/
structure Inflated where
  /-- How far the stream is unpacked. -/
  inflater : Inflater
  /-- The bytes that are left. -/
  rest : List UInt8
  /-- The contents. -/
  contents : List UInt8 := []
  /-- Whether the next phase was reached. -/
  moved : Bool := false
  deriving DecidableEq, Repr

namespace Inflater

/-- How many bytes are read ahead. -/
def readAhead : Nat := 7

/-- How many bytes of checksum follow the last block. -/
def checksumSize : Nat := 4

/-- A 16-bit number, the low byte first. -/
def short (a b : UInt8) : Nat := a.toNat + 256 * b.toNat

/-- Whether two bytes are the header of a stream. -/
def isHeader (method flags : UInt8) : Bool :=
  method &&& 0x0f = 8 && method &&& 0xf0 ≤ 0x70 && flags &&& 0x20 = 0
    && (256 * method.toNat + flags.toNat) % 31 = 0

/-- Read ahead as far as possible. -/
def fill (s : Inflater) (input : List UInt8) : Inflated :=
  let n := readAhead - s.held.length
  { inflater := { s with held := s.held ++ input.take n }, rest := input.drop n }

/-- Go to the next phase with what is left of the bytes that were read ahead. -/
def enter (phase : StreamPhase) (held rest contents : List UInt8) : Inflated :=
  { inflater := ⟨phase, held⟩, rest, contents, moved := true }

/-- Unpack the rest of one phase, with room for so many bytes of contents. -/
def step (s : Inflater) (input : List UInt8) (room : Nat) : Except StreamFault Inflated :=
  match s.phase with
  | .start =>
    let filled := s.fill input
    match filled.inflater.held with
    | method :: flags :: held =>
      if isHeader method flags then .ok (enter .block held filled.rest [])
      else .error .badHeader
    | _ => .ok filled
  | .block =>
    let filled := s.fill input
    match filled.inflater.held with
    | mode :: a :: held =>
      if mode &&& 6 = 6 then .error .badBlockType
      else if mode &&& 6 ≠ 0 then .error .compressedBlock
      else
        match held with
        | b :: c :: d :: held =>
          if short a b + short c d = 0xffff then
            .ok (enter (.stored (short a b) (mode &&& 1 = 1)) held filled.rest [])
          else .error .badBlockSize
        | _ => .ok filled
    | _ => .ok filled
  | .stored left last =>
    let n := min left room
    let contents := s.held.take n ++ input.take (n - s.held.length)
    let held := s.held.drop n
    let rest := input.drop (n - s.held.length)
    if contents.length = left then
      .ok (enter (if last then .checksum else .block) held rest contents)
    else .ok { inflater := ⟨.stored (left - contents.length) last, held⟩, rest, contents }
  | .checksum =>
    let filled := s.fill input
    if filled.inflater.held.length < checksumSize then .ok filled
    else .ok { filled with inflater := ⟨.done, []⟩ }
  | .done => .ok { inflater := s, rest := input }

/-- Unpack as many phases as given. -/
def steps : Nat → Inflater → List UInt8 → Nat → Except StreamFault Inflated
  | 0, s, input, _ => .ok { inflater := s, rest := input }
  | n + 1, s, input, room => do
    let a ← s.step input room
    if a.moved then
      let b ← steps n a.inflater a.rest (room - a.contents.length)
      return { b with contents := a.contents ++ b.contents }
    else return a

/-- Unpack as much of a piece as there is room for.  Every block takes more than two bytes, so that
there are fewer phases than bytes, the first and the last ones apart. -/
def run (s : Inflater) (input : List UInt8) (room : Nat) : Except StreamFault Inflated :=
  steps (s.held.length + input.length + 3) s input room

/-- Whether the stream has ended. -/
def isDone (s : Inflater) : Bool := s.phase = .done

end Inflater
end Png
end ModelPreview
