import Mathlib
import ModelPreview.Proofs.Texture.Layout

/-!
# Copying images into a canvas

An image that lies within a canvas is copied there pixel by pixel: the pixels that it covers become
its own, and all others stay.  Images that do not overlap can be copied one after another.  Where a
row goes is computed in words, but an image all of whose rows end within the canvas is so small that
nothing overflows.

Main definitions:

- `Canvas.pixelAt?` and `Image.pixel?`: the colour of a pixel.
- `Canvas.Lies`: an image lies within a canvas, and nothing overflows in copying it.
- `Canvas.blitAll`: a list of images copied into a canvas.
- `Canvas.RowsFit`: the rows of an image end within a canvas.

Main results:

- `Canvas.Lies.pixel_blit_of_mem` and `Canvas.Lies.pixel_blit_of_notMem`: the pixels after an image
  was copied.
- `Canvas.pixel_blitAll_of_mem` and `Canvas.pixel_blitAll_of_forall_notMem`: the pixels after a list
  of images was copied.
- `Canvas.RowsFit.isSmall`: an image whose rows fit is small.
-/

namespace ModelPreview

/-! ## Bytes -/

section Bytes

variable {src dest : ByteArray} {i j n k : Nat}

/-- A slice that lies within both arrays replaces bytes one by one. -/
theorem getElem?_copySlice (hsrc : i + n ≤ src.size) (hdest : j + n ≤ dest.size) :
    (src.copySlice i dest j n).data[k]? =
      if j ≤ k ∧ k < j + n then src.data[i + (k - j)]? else dest.data[k]? := by
  have hs : src.data.size = src.size := rfl
  have hd : dest.data.size = dest.size := rfl
  have hfront : (dest.data.extract 0 j).size = j := by
    rw [Array.size_extract]
    omega
  have hmiddle : (dest.data.extract 0 j ++ src.data.extract i (i + n)).size = j + n := by
    rw [Array.size_append, hfront, Array.size_extract]
    omega
  rw [ByteArray.data_copySlice]
  split_ifs with hk
  · rw [Array.getElem?_append_left (by omega), Array.getElem?_append_right (by omega), hfront,
      Array.getElem?_extract, if_pos (by omega)]
  · rcases Nat.lt_or_ge k j with hlt | hge
    · rw [Array.getElem?_append_left (by omega), Array.getElem?_append_left (by omega),
        Array.getElem?_extract, if_pos (by omega), Nat.zero_add]
    · rw [Array.getElem?_append_right (by omega), hmiddle, Array.getElem?_extract]
      split_ifs with hsize
      · congr 1
        omega
      · rw [eq_comm, Array.getElem?_eq_none_iff]
        omega

theorem size_copySlice (hsrc : i + n ≤ src.size) (hdest : j + n ≤ dest.size) :
    (src.copySlice i dest j n).size = dest.size := by
  have hs : src.data.size = src.size := rfl
  have hd : dest.data.size = dest.size := rfl
  rw [← ByteArray.size_data, ByteArray.data_copySlice]
  simp only [Array.size_append, Array.size_extract]
  omega

end Bytes

/-! ## Pixels -/

namespace Canvas

/-- The colour of the pixel with the given number, if its bytes are there. -/
def pixelAt? (bytes : ByteArray) (m : Nat) : Option Pixel := do
  return ⟨← bytes.data[4 * m]?, ← bytes.data[4 * m + 1]?, ← bytes.data[4 * m + 2]?,
    ← bytes.data[4 * m + 3]?⟩

theorem pixelAt?_congr {bytes bytes' : ByteArray} {m m' : Nat}
    (h : ∀ k < 4, bytes.data[4 * m + k]? = bytes'.data[4 * m' + k]?) :
    pixelAt? bytes m = pixelAt? bytes' m' := by
  have h0 := h 0 (by omega)
  rw [Nat.add_zero, Nat.add_zero] at h0
  unfold pixelAt?
  rw [h0, h 1 (by omega), h 2 (by omega), h 3 (by omega)]

theorem exists_pixelAt? {bytes : ByteArray} {m : Nat} (h : 4 * m + 4 ≤ bytes.size) :
    ∃ c, pixelAt? bytes m = some c := by
  have hsize : bytes.data.size = bytes.size := rfl
  have hbyte : ∀ k < 4, ∃ b, bytes.data[4 * m + k]? = some b := by
    intro k hk
    exact ⟨_, Array.getElem?_eq_getElem (by omega)⟩
  obtain ⟨r, hr⟩ := hbyte 0 (by omega)
  obtain ⟨g, hg⟩ := hbyte 1 (by omega)
  obtain ⟨b, hb⟩ := hbyte 2 (by omega)
  obtain ⟨a, ha⟩ := hbyte 3 (by omega)
  rw [Nat.add_zero] at hr
  exact ⟨⟨r, g, b, a⟩, by simp [pixelAt?, hr, hg, hb, ha]⟩

theorem pixelAt?_pushPixels (c : Pixel) (n : Nat) {bytes : ByteArray} {q m : Nat}
    (hsize : bytes.size = 4 * q) (hm : m < q + n) :
    pixelAt? (pushPixels c n bytes) m = if m < q then pixelAt? bytes m else some c := by
  induction n generalizing bytes q with
  | zero => rw [if_pos (by omega), pushPixels]
  | succ n ih =>
    have hdata : bytes.data.size = 4 * q := hsize
    have hpush : ((((bytes.push c.r).push c.g).push c.b).push c.a).data =
        bytes.data ++ #[c.r, c.g, c.b, c.a] := by
      apply Array.toList_inj.1
      simp [ByteArray.data_push]
    rw [pushPixels, ih (q := q + 1) (by simp only [ByteArray.size_push]; omega) (by omega)]
    rcases Nat.lt_trichotomy m q with hlt | rfl | hgt
    · rw [if_pos (by omega), if_pos hlt]
      apply pixelAt?_congr
      intro k hk
      rw [hpush, Array.getElem?_append_left (by omega)]
    · rw [if_pos (by omega), if_neg (by omega)]
      unfold pixelAt?
      rw [hpush, ← hdata]
      simp
    · rw [if_neg (by omega), if_neg (by omega)]

end Canvas

namespace Image

/-- The colour of a pixel, if its bytes are there. -/
def pixel? (i : Image) (x y : Nat) : Option Pixel :=
  Canvas.pixelAt? i.rgba (y * i.width.toNat + x)

/-- A pixel is numbered before the end of the rows up to its own. -/
theorem number_lt {width x y y' : Nat} (hx : x < width) (hy : y < y') :
    y * width + x < y' * width :=
  calc
    y * width + x < y * width + width := Nat.add_lt_add_left hx _
    _ = (y + 1) * width := (Nat.succ_mul y width).symm
    _ ≤ y' * width := Nat.mul_le_mul_right width hy

theorem IsWellFormed.exists_pixel? {i : Image} (h : i.IsWellFormed) {x y : Nat}
    (hx : x < i.width.toNat) (hy : y < i.height.toNat) : ∃ c, i.pixel? x y = some c := by
  have hlt := number_lt hx hy
  rw [IsWellFormed, Nat.mul_comm i.width.toNat] at h
  exact Canvas.exists_pixelAt? (by omega)

section Solid

variable {width height : UInt32} (c : Pixel) (harea : width.toNat * height.toNat < 2 ^ 30)

include harea

theorem area_eq : area width height = width.toNat * height.toNat := by
  have hproduct : (width * height).toNat = width.toNat * height.toNat := by
    rw [UInt32.toNat_mul, Nat.mod_eq_of_lt (by omega)]
  have hbytes : (width * height * 4).toNat = width.toNat * height.toNat * 4 := by
    rw [UInt32.toNat_mul, hproduct]
    exact Nat.mod_eq_of_lt (by simp; omega)
  rw [area, hbytes, Nat.mul_div_cancel _ (by omega)]

theorem isWellFormed_solid : (solid width height c).IsWellFormed := by
  change (pushPixels c (area width height) .empty).size = _
  rw [size_pushPixels, area_eq harea]
  exact Nat.zero_add _

theorem solid_pixel? {x y : Nat} (hx : x < width.toNat) (hy : y < height.toNat) :
    (solid width height c).pixel? x y = some c := by
  have hlt : y * width.toNat + x < 0 + area width height := by
    rw [area_eq harea, Nat.zero_add, Nat.mul_comm width.toNat]
    exact number_lt hx hy
  exact (Canvas.pixelAt?_pushPixels c (area width height) (q := 0) rfl hlt).trans
    (if_neg (Nat.not_lt_zero _))

end Solid

end Image

/-! ## One image -/

namespace Canvas

variable {width height : UInt32} {i : Image} {p : Placement} {canvas : ByteArray} {x y row : Nat}

/-- An image with all its bytes lies within a canvas that is not too large. -/
structure Lies (width height : UInt32) (i : Image) (p : Placement) : Prop where
  wellFormed : i.IsWellFormed
  width_le : width.toNat ≤ maxAtlasSize.toNat
  height_le : height.toNat ≤ maxAtlasSize.toNat
  right_le : p.x.toNat + i.width.toNat ≤ width.toNat
  bottom_le : p.y.toNat + i.height.toNat ≤ height.toNat

theorem toNat_mul_four (n : UInt32) : (n * 4).toNat = 4 * n.toNat % 2 ^ 32 := by
  rw [UInt32.toNat_mul, Nat.mul_comm]
  rfl

theorem toNat_mul_four_of_le {n : UInt32} (h : n.toNat ≤ maxAtlasSize.toNat) :
    (n * 4).toNat = 4 * n.toNat := by
  rw [toNat_maxAtlasSize] at h
  rw [toNat_mul_four]
  exact Nat.mod_eq_of_lt (by omega)

/-- Where a row starts in the bytes of a canvas. -/
def rowStart (width : UInt32) (p : Placement) (row : UInt32) : Nat :=
  (((p.y + row) * width + p.x) * 4).toNat

section Lies

variable (h : Lies width height i p)

include h

theorem Lies.line_eq (hrow : row < i.height.toNat) :
    (p.y + .ofNat row).toNat = p.y.toNat + row := by
  have hheight := h.height_le
  have hbottom := h.bottom_le
  have hword : (UInt32.ofNat row).toNat = row :=
    UInt32.toNat_ofNat_of_lt' (hrow.trans i.height.toNat_lt_size)
  rw [toNat_maxAtlasSize] at hheight
  rw [UInt32.toNat_add, hword]
  exact Nat.mod_eq_of_lt (by omega)

theorem Lies.lineStart_le (hrow : row < i.height.toNat) :
    (p.y.toNat + row) * width.toNat ≤ 8192 * 8192 := by
  have hheight := h.height_le
  have hbottom := h.bottom_le
  rw [toNat_maxAtlasSize] at hheight
  exact Nat.mul_le_mul (by omega) h.width_le

theorem Lies.lineStart_eq (hrow : row < i.height.toNat) :
    ((p.y + .ofNat row) * width).toNat = (p.y.toNat + row) * width.toNat := by
  have hle := h.lineStart_le hrow
  rw [UInt32.toNat_mul, h.line_eq hrow]
  exact Nat.mod_eq_of_lt (by omega)

/-- The place where a row starts does not overflow. -/
theorem Lies.rowStart_eq (hrow : row < i.height.toNat) :
    rowStart width p (.ofNat row) = 4 * ((p.y.toNat + row) * width.toNat + p.x.toNat) := by
  have hwidth := h.width_le
  have hright := h.right_le
  have hle := h.lineStart_le hrow
  rw [toNat_maxAtlasSize] at hwidth
  rw [rowStart, toNat_mul_four, UInt32.toNat_add, h.lineStart_eq hrow]
  omega

theorem Lies.rowLength_eq : (i.width * 4).toNat = 4 * i.width.toNat := by
  have hwidth := h.width_le
  have hright := h.right_le
  exact toNat_mul_four_of_le (by omega)

theorem Lies.sourceRow_le (hrow : row < i.height.toNat) :
    row * i.width.toNat ≤ 8192 * 8192 := by
  have hwidth := h.width_le
  have hheight := h.height_le
  have hright := h.right_le
  have hbottom := h.bottom_le
  rw [toNat_maxAtlasSize] at hwidth hheight
  exact Nat.mul_le_mul (by omega) (by omega)

theorem Lies.sourceRow_eq (hrow : row < i.height.toNat) :
    (.ofNat row * i.width).toNat = row * i.width.toNat := by
  have hle := h.sourceRow_le hrow
  have hword : (UInt32.ofNat row).toNat = row :=
    UInt32.toNat_ofNat_of_lt' (hrow.trans i.height.toNat_lt_size)
  rw [UInt32.toNat_mul, hword]
  exact Nat.mod_eq_of_lt (by omega)

theorem Lies.sourceStart_eq (hrow : row < i.height.toNat) :
    (.ofNat row * i.width * 4).toNat = 4 * (row * i.width.toNat) := by
  have hle := h.sourceRow_le hrow
  rw [toNat_mul_four, h.sourceRow_eq hrow]
  exact Nat.mod_eq_of_lt (by omega)

/-- Nothing overflows in copying a row. -/
theorem Lies.blitRow_eq (hrow : row < i.height.toNat) :
    blitRow width i p canvas (.ofNat row) =
      i.rgba.copySlice (4 * (row * i.width.toNat)) canvas
        (4 * ((p.y.toNat + row) * width.toNat + p.x.toNat)) (4 * i.width.toNat) := by
  have htarget : (((p.y + .ofNat row) * width + p.x) * 4).toNat =
      4 * ((p.y.toNat + row) * width.toNat + p.x.toNat) := h.rowStart_eq hrow
  rw [blitRow, h.sourceStart_eq hrow, htarget, h.rowLength_eq]

theorem Lies.source_le (hrow : row < i.height.toNat) :
    4 * (row * i.width.toNat) + 4 * i.width.toNat ≤ i.rgba.size := by
  have hle : (row + 1) * i.width.toNat ≤ i.height.toNat * i.width.toNat :=
    Nat.mul_le_mul_right _ hrow
  rw [h.wellFormed, Nat.mul_comm i.width.toNat]
  rw [Nat.succ_mul] at hle
  omega

theorem Lies.target_le (hrow : row < i.height.toNat) :
    4 * ((p.y.toNat + row) * width.toNat + p.x.toNat) + 4 * i.width.toNat ≤
      4 * (width.toNat * height.toNat) := by
  have hright := h.right_le
  have hbottom := h.bottom_le
  have hle : (p.y.toNat + row + 1) * width.toNat ≤ height.toNat * width.toNat :=
    Nat.mul_le_mul_right _ (by omega)
  rw [Nat.mul_comm width.toNat height.toNat]
  rw [Nat.succ_mul] at hle
  omega

variable (hsize : canvas.size = 4 * (width.toNat * height.toNat))

include hsize

theorem Lies.size_blitRow (hrow : row < i.height.toNat) :
    (blitRow width i p canvas (.ofNat row)).size = 4 * (width.toNat * height.toNat) := by
  rw [h.blitRow_eq hrow, ← hsize]
  exact size_copySlice (h.source_le hrow) (hsize ▸ h.target_le hrow)

/-- The pixels after a row was copied. -/
theorem Lies.pixel_blitRow (hrow : row < i.height.toNat) (hx : x < width.toNat) :
    pixelAt? (blitRow width i p canvas (.ofNat row)) (y * width.toNat + x) =
      if (p.x.toNat ≤ x ∧ x < p.x.toNat + i.width.toNat) ∧ y = p.y.toNat + row then
        i.pixel? (x - p.x.toNat) (y - p.y.toNat)
      else pixelAt? canvas (y * width.toNat + x) := by
  have hright := h.right_le
  have htarget := hsize ▸ h.target_le hrow
  rw [h.blitRow_eq hrow]
  split_ifs with hin
  · obtain ⟨hcolumn, rfl⟩ := hin
    rw [Nat.add_sub_cancel_left]
    apply pixelAt?_congr
    intro k hk
    rw [getElem?_copySlice (h.source_le hrow) htarget, if_pos (by omega)]
    congr 1
    omega
  · apply pixelAt?_congr
    intro k hk
    rw [getElem?_copySlice (h.source_le hrow) htarget, if_neg]
    intro hmem
    -- Pixels of other rows are numbered before or after all of this one.
    rcases Nat.lt_trichotomy y (p.y.toNat + row) with hlt | rfl | hgt
    · have hbefore := Image.number_lt hx hlt
      omega
    · omega
    · have hafter := Nat.mul_le_mul_right width.toNat hgt
      rw [Nat.succ_mul] at hafter
      omega

/-- The first rows of an image copied. -/
theorem Lies.size_blitRows {n : Nat} (hn : n ≤ i.height.toNat) :
    ((List.range n).foldl (fun c row => blitRow width i p c (.ofNat row)) canvas).size =
      4 * (width.toNat * height.toNat) := by
  induction n with
  | zero => exact hsize
  | succ n ih =>
    rw [List.range_succ, List.foldl_append, List.foldl_cons, List.foldl_nil]
    exact h.size_blitRow (ih (by omega)) (by omega)

/-- The pixels after the first rows of an image were copied. -/
theorem Lies.pixel_blitRows {n : Nat} (hn : n ≤ i.height.toNat) (hx : x < width.toNat) :
    pixelAt? ((List.range n).foldl (fun c row => blitRow width i p c (.ofNat row)) canvas)
        (y * width.toNat + x) =
      if (p.x.toNat ≤ x ∧ x < p.x.toNat + i.width.toNat) ∧ p.y.toNat ≤ y ∧ y < p.y.toNat + n then
        i.pixel? (x - p.x.toNat) (y - p.y.toNat)
      else pixelAt? canvas (y * width.toNat + x) := by
  induction n with
  | zero => exact (if_neg (by omega)).symm
  | succ n ih =>
    have hprev := h.size_blitRows hsize (n := n) (by omega)
    rw [List.range_succ, List.foldl_append, List.foldl_cons, List.foldl_nil,
      h.pixel_blitRow hprev (by omega) hx, ih (by omega)]
    split_ifs <;> first | omega | rfl

theorem Lies.size_blit : (blit width canvas i p).size = 4 * (width.toNat * height.toNat) :=
  h.size_blitRows hsize (Nat.le_refl _)

/-- The pixels that an image covers become its own. -/
theorem Lies.pixel_blit_of_mem (hx : x < width.toNat) (hmem : (x, y) ∈ i.cells p) :
    pixelAt? (blit width canvas i p) (y * width.toNat + x) =
      i.pixel? (x - p.x.toNat) (y - p.y.toNat) :=
  (h.pixel_blitRows hsize (Nat.le_refl _) hx).trans (if_pos (Image.mem_cells.1 hmem))

/-- The pixels that an image does not cover stay. -/
theorem Lies.pixel_blit_of_notMem (hx : x < width.toNat) (hmem : (x, y) ∉ i.cells p) :
    pixelAt? (blit width canvas i p) (y * width.toNat + x) =
      pixelAt? canvas (y * width.toNat + x) :=
  (h.pixel_blitRows hsize (Nat.le_refl _) hx).trans
    (if_neg fun hin => hmem (Image.mem_cells.2 hin))

end Lies

/-! ## A list of images -/

/-- A list of images copied to their places. -/
def blitAll (width : UInt32) (canvas : ByteArray) (placed : List (Image × Placement)) : ByteArray :=
  placed.foldl (fun c e => blit width c e.1 e.2) canvas

variable {placed : List (Image × Placement)}

theorem size_blitAll (hsize : canvas.size = 4 * (width.toNat * height.toNat))
    (hlies : ∀ e ∈ placed, Lies width height e.1 e.2) :
    (blitAll width canvas placed).size = 4 * (width.toNat * height.toNat) := by
  induction placed generalizing canvas with
  | nil => exact hsize
  | cons e placed ih =>
    have he := hlies e List.mem_cons_self
    exact ih (he.size_blit hsize) fun e' he' => hlies e' (List.mem_cons_of_mem e he')

/-- The pixels that no image covers stay. -/
theorem pixel_blitAll_of_forall_notMem (hsize : canvas.size = 4 * (width.toNat * height.toNat))
    (hlies : ∀ e ∈ placed, Lies width height e.1 e.2) (hx : x < width.toNat)
    (hnone : ∀ e ∈ placed, (x, y) ∉ e.1.cells e.2) :
    pixelAt? (blitAll width canvas placed) (y * width.toNat + x) =
      pixelAt? canvas (y * width.toNat + x) := by
  induction placed generalizing canvas with
  | nil => rfl
  | cons e placed ih =>
    have he := hlies e List.mem_cons_self
    calc
      pixelAt? (blitAll width (blit width canvas e.1 e.2) placed) (y * width.toNat + x) =
          pixelAt? (blit width canvas e.1 e.2) (y * width.toNat + x) :=
        ih (he.size_blit hsize) (fun e' he' => hlies e' (List.mem_cons_of_mem e he'))
          fun e' he' => hnone e' (List.mem_cons_of_mem e he')
      _ = pixelAt? canvas (y * width.toNat + x) :=
        he.pixel_blit_of_notMem hsize hx (hnone e List.mem_cons_self)

/-- The pixels that an image covers become its own, if no two images overlap. -/
theorem pixel_blitAll_of_mem (hsize : canvas.size = 4 * (width.toNat * height.toNat))
    (hlies : ∀ e ∈ placed, Lies width height e.1 e.2)
    (hdisjoint : placed.Pairwise fun d e => Disjoint (d.1.cells d.2) (e.1.cells e.2))
    (hplaced : (i, p) ∈ placed) (hx : x < width.toNat) (hmem : (x, y) ∈ i.cells p) :
    pixelAt? (blitAll width canvas placed) (y * width.toNat + x) =
      i.pixel? (x - p.x.toNat) (y - p.y.toNat) := by
  induction placed generalizing canvas with
  | nil => cases hplaced
  | cons e placed ih =>
    obtain ⟨hfirst, hrest⟩ := List.pairwise_cons.1 hdisjoint
    have he := hlies e List.mem_cons_self
    have hlies' : ∀ e' ∈ placed, Lies width height e'.1 e'.2 := fun e' he' =>
      hlies e' (List.mem_cons_of_mem e he')
    rcases List.mem_cons.1 hplaced with rfl | hplaced
    · -- The images copied later leave it alone.
      refine (pixel_blitAll_of_forall_notMem (he.size_blit hsize) hlies' hx ?_).trans
        (he.pixel_blit_of_mem hsize hx hmem)
      intro e' he'
      exact Set.disjoint_left.1 (hfirst e' he') hmem
    · exact ih (he.size_blit hsize) hlies' hrest hplaced

/-! ## Rows that fit -/

/-- Every row of an image ends within the bytes of a canvas, all numbers being words.  Copying any
other row is a fault. -/
def RowsFit (width height : UInt32) (i : Image) (p : Placement) : Prop :=
  ∀ row < i.height, rowStart width p row + (i.width * 4).toNat ≤ (width * height * 4).toNat

theorem toNat_byteCount (hwidth : width.toNat ≤ maxAtlasSize.toNat)
    (hheight : height.toNat ≤ maxAtlasSize.toNat) :
    (width * height * 4).toNat = 4 * (width.toNat * height.toNat) := by
  have hle : width.toNat * height.toNat ≤ 8192 * 8192 := Nat.mul_le_mul hwidth hheight
  have hproduct : (width * height).toNat = width.toNat * height.toNat :=
    toNat_mul_of_lt (by omega)
  rw [toNat_mul_four, hproduct]
  exact Nat.mod_eq_of_lt (by omega)

theorem Lies.rowsFit (h : Lies width height i p) : RowsFit width height i p := by
  intro row hrow
  have hlt := UInt32.lt_iff_toNat_lt.1 hrow
  have hstart := h.rowStart_eq hlt
  rw [UInt32.ofNat_toNat] at hstart
  rw [hstart, h.rowLength_eq, toNat_byteCount h.width_le h.height_le]
  exact h.target_le hlt

/-- Consecutive rows start one row of the canvas apart. -/
theorem rowStart_succ (width : UInt32) (p : Placement) (row : UInt32) :
    rowStart width p (row + 1) = (rowStart width p row + 4 * width.toNat) % 2 ^ 32 := by
  have hword : ((p.y + (row + 1)) * width + p.x) * 4 =
      ((p.y + row) * width + p.x) * 4 + width * 4 := by grind
  unfold rowStart
  rw [hword, UInt32.toNat_add, toNat_mul_four width]
  omega

namespace RowsFit

variable (h : RowsFit width height i p) (hwidth : width.toNat ≤ maxAtlasSize.toNat)
  (hheight : height.toNat ≤ maxAtlasSize.toNat)

include h hwidth hheight

theorem row_le {row : Nat} (hrow : row < i.height.toNat) :
    rowStart width p (.ofNat row) + (i.width * 4).toNat ≤ 4 * (width.toNat * height.toNat) := by
  rw [← toNat_byteCount hwidth hheight]
  apply h
  rwa [UInt32.lt_iff_toNat_lt, UInt32.toNat_ofNat_of_lt' (hrow.trans i.height.toNat_lt_size)]

theorem row_le_max {row : Nat} (hrow : row < i.height.toNat) :
    rowStart width p (.ofNat row) + (i.width * 4).toNat ≤ 2 ^ 28 := by
  have harea : width.toNat * height.toNat ≤ 8192 * 8192 := Nat.mul_le_mul hwidth hheight
  have hrow' := h.row_le hwidth hheight hrow
  omega

/-- A width that overflows in the layout makes rows that do not fit. -/
theorem width_le (hleft : p.x.toNat ≤ width.toNat) (hright : (p.x + i.width).toNat ≤ width.toNat)
    (hrows : 1 ≤ i.height.toNat) : i.width.toNat ≤ maxAtlasSize.toNat := by
  have hfirst := h.row_le_max hwidth hheight hrows
  have hlt := i.width.toNat_lt
  rw [toNat_mul_four] at hfirst
  rw [UInt32.toNat_add] at hright
  rw [toNat_maxAtlasSize] at *
  omega

/-- All rows start where the first one does, but for the rows of the canvas between them. -/
theorem rowStart_eq {row : Nat} (hrow : row < i.height.toNat) :
    rowStart width p (.ofNat row) = rowStart width p 0 + 4 * (width.toNat * row) := by
  induction row with
  | zero => rfl
  | succ row ih =>
    have hrow' : row < i.height.toNat := by omega
    have hprev := h.row_le_max hwidth hheight hrow'
    rw [toNat_maxAtlasSize] at hwidth
    rw [UInt32.ofNat_add, show UInt32.ofNat 1 = 1 from rfl, rowStart_succ,
      Nat.mod_eq_of_lt (by omega), ih hrow', Nat.mul_succ]
    omega

/-- An image with more rows than the canvas does not fit. -/
theorem height_le (hcolumns : 1 ≤ i.width.toNat) (hsmall : i.width.toNat ≤ maxAtlasSize.toNat) :
    i.height.toNat ≤ maxAtlasSize.toNat := by
  rcases Nat.eq_zero_or_pos i.height.toNat with hzero | hrows
  · omega
  have hlast : i.height.toNat - 1 < i.height.toNat := by omega
  have hend := h.row_le hwidth hheight hlast
  rw [h.rowStart_eq hwidth hheight hlast, toNat_mul_four_of_le hsmall] at hend
  have hlt : width.toNat * (i.height.toNat - 1) < width.toNat * height.toNat := by omega
  have hrow := Nat.lt_of_mul_lt_mul_left hlt
  omega

/-- An image whose rows fit is small. -/
theorem isSmall (hleft : p.x.toNat ≤ width.toNat) (hright : (p.x + i.width).toNat ≤ width.toNat)
    (hpos : 1 ≤ i.width.toNat ∧ 1 ≤ i.height.toNat) : i.IsSmall := by
  have hcolumns := h.width_le hwidth hheight hleft hright hpos.2
  exact ⟨hcolumns, h.height_le hwidth hheight hpos.1 hcolumns⟩

end RowsFit
end Canvas
end ModelPreview
