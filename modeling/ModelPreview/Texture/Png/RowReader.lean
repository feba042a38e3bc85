import ModelPreview.Texture.Png.Row

/-!
# Reading rows

The chunks of rows are fed to a reader one after the other.  After every piece of the stream the rows
that are complete are turned into colours, so that a fault in a row is found before a fault in the
pieces that follow.

Main definitions:

- `Png.RowReader`: what has been read so far.
- `Png.RowReader.feed`: read the piece of the stream in one chunk.
- `Png.RowReader.finish`: read what is left when the chunks end.
-/

namespace ModelPreview
namespace Png

/-- What has been read of the rows. -/
structure RowReader where
  /-- The stream. -/
  inflater : Inflater := {}
  /-- How many bytes the stream has given. -/
  produced : Nat := 0
  /-- How many bytes the stream has to give before the rows are looked at, unless it pauses. -/
  expected : Option Nat := none
  /-- Bytes of rows that are not complete. -/
  buffered : List UInt8 := []
  /-- The row above the next one. -/
  above : Array UInt8 := #[]
  /-- How many rows are missing. -/
  missing : Nat
  /-- The colours of the rows. -/
  rgba : ByteArray := .empty

namespace RowReader

/-- A reader that has read nothing.  The size of the image tells how much the stream gives, but that
of a frame does not. -/
def start (m : Metadata) : RowReader where
  missing := m.rowCount
  expected := if m.frame.isNone then some (m.rowCount * m.rowBytes) else none

/-- Take the rows that are complete, at most as many as given. -/
def takeRows (m : Metadata) : Nat → RowReader → Except Fault RowReader
  | 0, r => .ok { r with buffered := [] }
  | n + 1, r =>
    let bytes := r.buffered.take m.rowBytes
    if bytes.length < m.rowBytes then .ok r
    else do
      let row ← m.readRow r.above bytes
      takeRows m n { r with
        buffered := r.buffered.drop m.rowBytes
        above := row
        missing := n
        rgba := m.pushRow m.rowWidth row.toList r.rgba }

/-- Unpack a piece of the stream until it ends or gives what was expected.  Behind the end of the
stream everything is ignored. -/
def unpack (r : RowReader) (input : List UInt8) : Except Fault (RowReader × List UInt8) :=
  if r.inflater.isDone then .ok (r, [])
  else
    let expected := r.expected.filter (r.produced < ·)
    let room := expected.elim (r.inflater.held.length + input.length) (· - r.produced)
    match r.inflater.run input room with
    | .error cause => .error (.stream cause)
    | .ok a =>
      .ok ({ r with
        inflater := a.inflater
        produced := r.produced + a.contents.length
        expected
        buffered := r.buffered ++ a.contents }, a.rest)

/-- Unpack a piece and take the rows that are complete, in at most as many turns as given. -/
def turns (m : Metadata) : Nat → RowReader → List UInt8 → Except Fault RowReader
  | 0, r, _ => .ok r
  | n + 1, r, input => do
    let (r, rest) ← r.unpack input
    let r ← takeRows m r.missing r
    if rest.isEmpty then return r else turns m n r rest

/-- Read the piece of the stream in one chunk.  Every turn but one takes a byte of it. -/
def feed (m : Metadata) (r : RowReader) (input : List UInt8) : Except Fault RowReader :=
  turns m (input.length + 2) r input

/-- Read what is left when the chunks end. -/
def finish (m : Metadata) (r : RowReader) : Except Fault RowReader := do
  let (r, _) ← r.unpack []
  let (r, _) ← r.unpack []
  if r.inflater.isDone then
    let r ← takeRows m r.missing r
    if r.missing = 0 then return r else .error .missingRows
  else .error (.stream .tooShort)

end RowReader
end Png
end ModelPreview
