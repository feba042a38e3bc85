import ModelPreview.Texture.Image
import ModelPreview.Texture.Png.Metadata

/-!
# Rows of pixels

A row starts with the kind of its filter: each byte is stored as the difference from a prediction out
of the pixels to the left and above.

Main definitions:

- `Png.unfilter`: the bytes of a row before it was filtered.
- `Png.Metadata.readRow`: the bytes and the colours of a row.
-/

namespace ModelPreview
namespace Png

/-! ## Filters -/

/-- How the bytes of a row are predicted. -/
inductive RowFilter where
  /-- By nothing. -/
  | none
  /-- By the byte to the left. -/
  | left
  /-- By the byte above. -/
  | above
  /-- By the mean of both. -/
  | mean
  /-- By the one of left, above and above left that is nearest to their linear extrapolation. -/
  | nearest
  deriving DecidableEq, Repr

namespace RowFilter

/-- The filter with a given number. -/
def ofNumber? (n : UInt8) : Option RowFilter :=
  [(0, none), (1, left), (2, above), (3, mean), (4, nearest)].lookup n

/-- The distance of a number from the linear extrapolation of three others. -/
def distance (a b c x : UInt8) : Nat :=
  ((a.toNat : Int) + b.toNat - c.toNat - x.toNat).natAbs

/-- The prediction out of the bytes to the left, above, and above left. -/
def predict (f : RowFilter) (a b c : UInt8) : UInt8 :=
  match f with
  | none => 0
  | left => a
  | above => b
  | mean => UInt8.ofNat ((a.toNat + b.toNat) / 2)
  | nearest =>
    if distance a b c a ≤ distance a b c b ∧ distance a b c a ≤ distance a b c c then a
    else if distance a b c b ≤ distance a b c c then b
    else c

end RowFilter

/-- A byte of an earlier pixel, or zero in front of the first one. -/
def earlier (bytes : Array UInt8) (i width : Nat) : UInt8 :=
  if width ≤ i then bytes.getD (i - width) 0 else 0

/-- The bytes of a row before it was filtered, given the row above and the bytes of a pixel. -/
def unfilter (f : RowFilter) (width : Nat) (above : Array UInt8) (row : List UInt8) :
    Array UInt8 :=
  row.foldl (fun done b =>
    let i := done.size
    done.push (b + f.predict (earlier done i width) (above.getD i 0) (earlier above i width))) #[]

/-! ## Colours -/

namespace Metadata

/-- The opacity of a colour of the palette.  Opacities are ignored if there are more of them than
colours. -/
def paletteOpacity (m : Metadata) (palette : List UInt8) (i : Nat) : UInt8 :=
  match m.transparency with
  | some opacities =>
    if opacities.length ≤ palette.length / 3 then (opacities[i]?).getD 255 else 255
  | none => 255

/-- The colour of a pixel given by its channels. -/
def pixel (m : Metadata) (channels : List UInt8) : Pixel :=
  let opacity := if m.transparency = some channels then 0 else 255
  match m.color, channels with
  | .gray, [y] => ⟨y, y, y, opacity⟩
  | .rgb, [r, g, b] => ⟨r, g, b, opacity⟩
  | .grayAlpha, [y, a] => ⟨y, y, y, a⟩
  | .rgba, [r, g, b, a] => ⟨r, g, b, a⟩
  | .indexed, [i] =>
    let palette := m.palette.getD []
    match (palette.drop (3 * i.toNat)).take 3 with
    | [r, g, b] => ⟨r, g, b, m.paletteOpacity palette i.toNat⟩
    | _ => .black
  | _, _ => .transparent

/-- Append the colours of the given number of pixels. -/
def pushRow (m : Metadata) : Nat → List UInt8 → ByteArray → ByteArray
  | 0, _, rgba => rgba
  | n + 1, bytes, rgba =>
    m.pushRow n (bytes.drop m.color.channels)
      (pushPixels (m.pixel (bytes.take m.color.channels)) 1 rgba)

/-- The colour of pixels that the first image does not cover. -/
def background (m : Metadata) : Pixel := if m.hasAlpha then .transparent else .black

/-- The bytes of a row before it was filtered, given the row above. -/
def readRow (m : Metadata) (above : Array UInt8) : List UInt8 → Except Fault (Array UInt8)
  | [] => .error .missingRows
  | kind :: row =>
    match RowFilter.ofNumber? kind with
    | none => .error (.filter kind)
    | some f =>
      if m.color = .indexed ∧ m.palette.isNone then .error .noPalette
      else .ok (unfilter f m.color.channels above row)

end Metadata
end Png
end ModelPreview
