import Mathlib
import ModelPreview.Proofs.Texture.Packing

/-!
# When the size of an atlas is checked reliably

The layout of an atlas is computed in words, and its size is looked at only after all images have
been laid out.  The layout in natural numbers has no such limit.  Both agree as long as every sum of
the layout in natural numbers fits into a word.  Then the size is refused exactly if it is too large,
with its true extent, and nothing overflows in copying the images.  If some sum does not fit, the
layout goes on with a wrong position: two images that do not go onto one shelf may be put there.

Main definitions:

- `ExactShelf`: the layout in natural numbers.
- `ExactShelf.Fits` and `ExactShelf.FitsAll`: the sums of a layout fit into words.
- `Atlas.ChecksSize`: nothing overflows while an atlas is built, every row is copied within bounds,
  and the size is refused exactly if it is too large.

Main results:

- `Shelf.exact_place` and `Shelf.exact_placeAll`: the layouts agree after one image and after all.
- `Shelf.forall_mem_sumsAll_iff`: nothing overflows in words exactly if all sums fit.
- `Atlas.checksSize_iff_fitsAll`: when the check is reliable.
- `Atlas.wideTiles_not_checked`: two images whose atlas gets a wrong size.
-/

namespace ModelPreview

/-! ## The layout in natural numbers -/

/-- The layout so far, without a limit on positions. -/
structure ExactShelf where
  /-- Left side of the next image. -/
  x : Nat := 0
  /-- Top of the current shelf. -/
  y : Nat := 0
  /-- Height of the current shelf. -/
  rowHeight : Nat := 0
  /-- Width of all shelves. -/
  width : Nat := 0
  deriving DecidableEq, Repr

namespace ExactShelf

/-- Whether an image starts a new shelf. -/
def Wraps (s : ExactShelf) (i : Image) : Prop := 0 < s.x ∧ 2048 < s.x + i.width.toNat

instance (s : ExactShelf) (i : Image) : Decidable (s.Wraps i) := inferInstanceAs (Decidable (_ ∧ _))

/-- The layout after an image. -/
def place (s : ExactShelf) (i : Image) : ExactShelf :=
  if s.Wraps i then
    ⟨i.width.toNat, s.y + s.rowHeight, i.height.toNat, max s.width i.width.toNat⟩
  else
    ⟨s.x + i.width.toNat, s.y, max s.rowHeight i.height.toNat, max s.width (s.x + i.width.toNat)⟩

/-- The layout after a list of images. -/
def placeAll (s : ExactShelf) (images : List Image) : ExactShelf := images.foldl place s

/-- The height of all shelves. -/
def height (s : ExactShelf) : Nat := s.y + s.rowHeight

/-- The sums formed in putting an image onto the shelves fit into words. -/
structure Fits (s : ExactShelf) (i : Image) : Prop where
  across : s.x + i.width.toNat < 2 ^ 32
  down : s.Wraps i → s.height < 2 ^ 32

/-- The sums formed in laying out a list of images fit into words. -/
def FitsAll (s : ExactShelf) : List Image → Prop
  | [] => s.height < 2 ^ 32
  | i :: images => s.Fits i ∧ (s.place i).FitsAll images

variable {s : ExactShelf} {i : Image} {images : List Image}

theorem height_le_place (s : ExactShelf) (i : Image) : s.height ≤ (s.place i).height := by
  unfold place height
  split <;> simp only <;> omega

theorem width_le_place (s : ExactShelf) (i : Image) : s.width ≤ (s.place i).width := by
  unfold place
  split <;> simp only <;> omega

theorem image_le_place (s : ExactShelf) (i : Image) :
    i.width.toNat ≤ (s.place i).width ∧ i.height.toNat ≤ (s.place i).height := by
  unfold place height
  split <;> simp only <;> omega

theorem le_placeAll (s : ExactShelf) (images : List Image) :
    s.width ≤ (s.placeAll images).width ∧ s.height ≤ (s.placeAll images).height := by
  induction images generalizing s with
  | nil => exact ⟨Nat.le_refl _, Nat.le_refl _⟩
  | cons i images ih =>
    have hrest := ih (s.place i)
    exact ⟨(s.width_le_place i).trans hrest.1, (s.height_le_place i).trans hrest.2⟩

/-- The extent takes in every image. -/
theorem image_le_placeAll (s : ExactShelf) (hi : i ∈ images) :
    i.width.toNat ≤ (s.placeAll images).width ∧ i.height.toNat ≤ (s.placeAll images).height := by
  induction images generalizing s with
  | nil => cases hi
  | cons j images ih =>
    rcases List.mem_cons.1 hi with rfl | hi
    · have hplaced := s.image_le_place i
      have hrest := (s.place i).le_placeAll images
      exact ⟨hplaced.1.trans hrest.1, hplaced.2.trans hrest.2⟩
    · exact ih (s.place j) hi

/-- Images with sides below `2 ^ 18` fit, if there are not too many of them for the room below. -/
theorem fitsAll_of_sides_lt (hx : s.x < 2 ^ 18)
    (hheight : s.height + (2 ^ 18 - 1) * images.length < 2 ^ 32)
    (hsides : ∀ i ∈ images, i.width.toNat < 2 ^ 18 ∧ i.height.toNat < 2 ^ 18) :
    s.FitsAll images := by
  induction images generalizing s with
  | nil => exact hheight
  | cons i images ih =>
    obtain ⟨hwidth, hi⟩ := hsides i List.mem_cons_self
    rw [List.length_cons] at hheight
    have hrest := fun j hj => hsides j (List.mem_cons_of_mem i hj)
    refine ⟨⟨by omega, fun _ => by omega⟩, ih ?_ ?_ hrest⟩
    · unfold place
      split
      · exact hwidth
      · rename_i hwraps
        simp only [Wraps, not_and, not_lt] at hwraps ⊢
        omega
    · have hstep : (s.place i).height ≤ s.height + i.height.toNat := by
        unfold place height
        split <;> simp only <;> omega
      omega

end ExactShelf

/-! ## The layout in words -/

namespace Shelf

variable {s : Shelf} {i : Image} {images : List Image}

/-- A layout in words as one in natural numbers. -/
def exact (s : Shelf) : ExactShelf := ⟨s.x.toNat, s.y.toNat, s.rowHeight.toNat, s.width.toNat⟩

/-- The sums of words formed in putting an image onto the shelves. -/
def sums (s : Shelf) (i : Image) : List Nat :=
  (if 0 < s.x then [s.x.toNat + i.width.toNat] else [])
    ++ (if 0 < s.x ∧ maxRowWidth < s.x + i.width then [s.y.toNat + s.rowHeight.toNat] else [])
    ++ [(s.placement i).x.toNat + i.width.toNat]

/-- The sums of words formed in laying out a list of images; the last one is the height. -/
def sumsAll (s : Shelf) : List Image → List Nat
  | [] => [s.y.toNat + s.rowHeight.toNat]
  | i :: images => s.sums i ++ (s.place i).sumsAll images

/-- A new shelf starts where it does in natural numbers. -/
theorem wraps_iff (hacross : s.x.toNat + i.width.toNat < 2 ^ 32) :
    (0 < s.x ∧ maxRowWidth < s.x + i.width) ↔ s.exact.Wraps i := by
  rw [UInt32.lt_iff_toNat_lt, UInt32.lt_iff_toNat_lt, toNat_add_of_lt hacross]
  exact Iff.rfl

/-- As long as the sums fit, the layouts agree after an image. -/
theorem exact_place (h : s.exact.Fits i) : (s.place i).exact = s.exact.place i := by
  have hacross : s.x.toNat + i.width.toNat < 2 ^ 32 := h.across
  have hwraps := wraps_iff hacross
  by_cases hwrap : s.exact.Wraps i
  · have hsum : (s.y + s.rowHeight).toNat = s.y.toNat + s.rowHeight.toNat :=
      toNat_add_of_lt (h.down hwrap)
    have hshelf : s.wrap i.width = { s with x := 0, y := s.y + s.rowHeight, rowHeight := 0 } :=
      if_pos (hwraps.2 hwrap)
    rw [ExactShelf.place, if_pos hwrap, place, hshelf]
    simp [push, exact, hsum, UInt32.toNat_max]
  · have hshelf : s.wrap i.width = s := if_neg fun h => hwrap (hwraps.1 h)
    rw [ExactShelf.place, if_neg hwrap, place, hshelf]
    simp only [push, exact, toNat_add_of_lt hacross, UInt32.toNat_max]

/-- As long as the sums fit, the layouts agree after a list of images, and so do their heights. -/
theorem exact_placeAll (h : s.exact.FitsAll images) :
    (s.placeAll images).exact = s.exact.placeAll images ∧
      (s.placeAll images).height.toNat = (s.exact.placeAll images).height := by
  induction images generalizing s with
  | nil => exact ⟨rfl, toNat_add_of_lt h⟩
  | cons i images ih =>
    have hstep := exact_place h.1
    have hrest := ih (hstep ▸ h.2)
    rw [hstep] at hrest
    exact hrest

/-- As long as the sums fit, the extent is the one in natural numbers. -/
theorem extent_eq (h : ExactShelf.FitsAll {} images) :
    (placeAll {} images).width.toNat = (ExactShelf.placeAll {} images).width ∧
      (placeAll {} images).height.toNat = (ExactShelf.placeAll {} images).height := by
  have hagree : exact {} = {} := rfl
  obtain ⟨hshelf, hheight⟩ := exact_placeAll (hagree ▸ h)
  rw [hagree] at hshelf hheight
  exact ⟨congrArg ExactShelf.width hshelf, hheight⟩

/-- Nothing overflows in putting an image onto the shelves exactly if the sums fit. -/
theorem forall_mem_sums_iff : (∀ n ∈ s.sums i, n < 2 ^ 32) ↔ s.exact.Fits i := by
  have hword := i.width.toNat_lt
  have hleft := placement_x_le s i
  simp only [sums, List.forall_mem_append, List.forall_mem_singleton]
  constructor
  · rintro ⟨⟨hfirst, hdown⟩, -⟩
    have hacross : s.x.toNat + i.width.toNat < 2 ^ 32 := by
      by_cases hx : 0 < s.x
      · rw [if_pos hx] at hfirst
        exact hfirst _ List.mem_cons_self
      · rw [UInt32.lt_iff_toNat_lt] at hx
        simp only [UInt32.toNat_zero] at hx
        omega
    refine ⟨hacross, fun hwrap => ?_⟩
    rw [if_pos ((wraps_iff hacross).2 hwrap)] at hdown
    exact hdown _ List.mem_cons_self
  · intro h
    have hacross : s.x.toNat + i.width.toNat < 2 ^ 32 := h.across
    refine ⟨⟨?_, ?_⟩, by omega⟩
    · split
      · exact List.forall_mem_singleton.2 hacross
      · exact nofun
    · split
      · rename_i hwrap
        exact List.forall_mem_singleton.2 (h.down ((wraps_iff hacross).1 hwrap))
      · exact nofun

/-- Nothing overflows in laying out images exactly if the sums fit. -/
theorem forall_mem_sumsAll_iff : (∀ n ∈ s.sumsAll images, n < 2 ^ 32) ↔ s.exact.FitsAll images := by
  induction images generalizing s with
  | nil => exact List.forall_mem_singleton
  | cons i images ih =>
    rw [sumsAll, List.forall_mem_append, forall_mem_sums_iff, ih]
    exact and_congr_right fun hfits => by rw [exact_place hfits]

end Shelf

/-! ## Copying -/

namespace Canvas

variable {width height : UInt32} {i : Image} {p : Placement}

/-- The sums and products of words formed in copying a row of an image. -/
def rowNumbers (width : UInt32) (i : Image) (p : Placement) (row : UInt32) : List Nat :=
  [row.toNat * i.width.toNat, (row * i.width).toNat * 4, i.width.toNat * 4,
    p.y.toNat + row.toNat, (p.y + row).toNat * width.toNat,
    ((p.y + row) * width).toNat + p.x.toNat, ((p.y + row) * width + p.x).toNat * 4]

/-- The products of words formed in finding the number of bytes of a canvas. -/
def byteNumbers (width height : UInt32) : List Nat :=
  [width.toNat * height.toNat, (width * height).toNat * 4]

/-- The sums of words formed in finding the right and the lower side of an image. -/
def sideNumbers (i : Image) (p : Placement) : List Nat :=
  [p.x.toNat + i.width.toNat, p.y.toNat + i.height.toNat]

theorem byteNumbers_lt (hwidth : width ≤ maxAtlasSize) (hheight : height ≤ maxAtlasSize) :
    ∀ n ∈ byteNumbers width height, n < 2 ^ 32 := by
  have hle : width.toNat * height.toNat ≤ 8192 * 8192 :=
    Nat.mul_le_mul (UInt32.le_iff_toNat_le.1 hwidth) (UInt32.le_iff_toNat_le.1 hheight)
  have hproduct : (width * height).toNat = width.toNat * height.toNat :=
    toNat_mul_of_lt (by omega)
  simp only [byteNumbers, List.forall_mem_cons, hproduct]
  exact ⟨by omega, by omega, nofun⟩

theorem Lies.sideNumbers_lt (h : Lies width height i p) : ∀ n ∈ sideNumbers i p, n < 2 ^ 32 := by
  simp only [sideNumbers, List.forall_mem_cons]
  exact ⟨h.right_le.trans_lt width.toNat_lt, h.bottom_le.trans_lt height.toNat_lt, nofun⟩

theorem Lies.rowNumbers_lt (h : Lies width height i p) {row : Nat} (hrow : row < i.height.toNat) :
    ∀ n ∈ rowNumbers width i p (.ofNat row), n < 2 ^ 32 := by
  have hwidth := h.width_le
  have hheight := h.height_le
  have hright := h.right_le
  have hbottom := h.bottom_le
  rw [toNat_maxAtlasSize] at hwidth hheight
  have hword : (UInt32.ofNat row).toNat = row :=
    UInt32.toNat_ofNat_of_lt' (hrow.trans i.height.toNat_lt_size)
  have hsource := h.sourceRow_le hrow
  have hline := h.lineStart_le hrow
  have hplace : ((p.y + .ofNat row) * width + p.x).toNat =
      (p.y.toNat + row) * width.toNat + p.x.toNat := by
    rw [UInt32.toNat_add, h.lineStart_eq hrow]
    exact Nat.mod_eq_of_lt (by omega)
  simp only [rowNumbers, List.forall_mem_cons, hword, h.sourceRow_eq hrow, h.line_eq hrow,
    h.lineStart_eq hrow, hplace]
  exact ⟨by omega, by omega, by omega, by omega, by omega, by omega, by omega, nofun⟩

/-- The bytes of a row are taken from within an image and copied to within a canvas. -/
def RowInBounds (width height : UInt32) (i : Image) (p : Placement) (row : UInt32) : Prop :=
  (row * i.width * 4).toNat + (i.width * 4).toNat ≤ i.rgba.size ∧
    rowStart width p row + (i.width * 4).toNat ≤ (width * height * 4).toNat

theorem Lies.rowInBounds (h : Lies width height i p) {row : UInt32} (hrow : row < i.height) :
    RowInBounds width height i p row := by
  have hlt := UInt32.lt_iff_toNat_lt.1 hrow
  have hstart := h.sourceStart_eq hlt
  rw [UInt32.ofNat_toNat] at hstart
  refine ⟨?_, h.rowsFit row hrow⟩
  rw [hstart, h.rowLength_eq]
  exact h.source_le hlt

end Canvas

/-! ## The check -/

namespace Atlas

/-- The check of the size is reliable for images and what packing them gives: no sum or product of
words is too large, every row is copied from and to within bounds, and packing fails exactly if the
layout in natural numbers is too large, with the extent that it has there. -/
structure ChecksSize (images : List Image) (result : Except TextureError Atlas) : Prop where
  layout : ∀ n ∈ Shelf.sumsAll {} images, n < 2 ^ 32
  bytes : ∀ a, result = .ok a → ∀ n ∈ Canvas.byteNumbers a.image.width a.image.height, n < 2 ^ 32
  rows : ∀ a, result = .ok a → ∀ e ∈ Shelf.layout {} images, ∀ row < e.1.height,
    (∀ n ∈ Canvas.rowNumbers a.image.width e.1 e.2 row, n < 2 ^ 32) ∧
      Canvas.RowInBounds a.image.width a.image.height e.1 e.2 row
  sides : ∀ a, result = .ok a → ∀ e ∈ Shelf.layout {} images, ∀ n ∈ Canvas.sideNumbers e.1 e.2,
    n < 2 ^ 32
  refused : (∃ e, result = .error e) ↔
    8192 < (ExactShelf.placeAll {} images).width ∨ 8192 < (ExactShelf.placeAll {} images).height
  extent : ∀ e, result = .error e → ∃ width height, e = .tooLarge width height ∧
    width.toNat = (ExactShelf.placeAll {} images).width ∧
    height.toNat = (ExactShelf.placeAll {} images).height

/-- What it takes that images cannot be packed. -/
theorem pack_eq_error_iff {images : List (String × Image)} {e : TextureError} :
    pack images = .error e ↔
      let shelf := Shelf.placeAll {} (images.map (·.2))
      images ≠ [] ∧ (maxAtlasSize < shelf.width ∨ maxAtlasSize < shelf.height) ∧
        e = .tooLarge shelf.width shelf.height := by
  cases images with
  | nil => simp [pack]
  | cons d images =>
    simp only [pack, List.isEmpty_cons, Bool.false_eq_true, if_false, ne_eq, reduceCtorEq,
      not_false_eq_true, true_and]
    split
    · rename_i hlarge
      rw [Except.error.injEq, eq_comm]
      exact ⟨fun h => ⟨hlarge, h⟩, fun h => h.2⟩
    · rename_i hsmall
      refine iff_of_false (fun h => ?_) fun h => hsmall h.1
      cases h

/-- If all sums fit, no image is larger than the extent. -/
theorem isSmall_of_fitsAll {images : List Image} (hfits : ExactShelf.FitsAll {} images)
    (hwidth : (Shelf.placeAll {} images).width ≤ maxAtlasSize)
    (hheight : (Shelf.placeAll {} images).height ≤ maxAtlasSize) : ∀ i ∈ images, i.IsSmall := by
  intro i hi
  obtain ⟨hacross, hdown⟩ := Shelf.extent_eq hfits
  have himage := ExactShelf.image_le_placeAll {} hi
  rw [← hacross, ← hdown] at himage
  exact ⟨himage.1.trans (UInt32.le_iff_toNat_le.1 hwidth),
    himage.2.trans (UInt32.le_iff_toNat_le.1 hheight)⟩

section Pack

variable {images : List (String × Image)} (hcount : (images.map (·.2)).length ≤ 16384)
  (hproper : ∀ i ∈ images.map (·.2), i.IsProper)
  (hfits : ExactShelf.FitsAll {} (images.map (·.2)))

include hcount hproper hfits

/-- If all sums fit, every image lies within the atlas. -/
theorem lies_of_fitsAll {a : Atlas} (hpack : pack images = .ok a) :
    ∀ e ∈ Shelf.layout {} (images.map (·.2)),
      Canvas.Lies a.image.width a.image.height e.1 e.2 := by
  rcases pack_eq_ok_iff.1 hpack with ⟨rfl, -⟩ | ⟨-, hwidth, hheight, rfl⟩
  · exact nofun
  · exact lies_of_isSmall hproper hwidth hheight hcount (isSmall_of_fitsAll hfits hwidth hheight)

/-- If all sums fit, the check is reliable. -/
theorem checksSize_of_fitsAll : ChecksSize (images.map (·.2)) (pack images) := by
  obtain ⟨hwidth, hheight⟩ := Shelf.extent_eq hfits
  have hlies {a : Atlas} (hpack : pack images = .ok a) :=
    lies_of_fitsAll hcount hproper hfits hpack
  have hlarge : (maxAtlasSize < (Shelf.placeAll {} (images.map (·.2))).width ∨
        maxAtlasSize < (Shelf.placeAll {} (images.map (·.2))).height) ↔
      8192 < (ExactShelf.placeAll {} (images.map (·.2))).width ∨
        8192 < (ExactShelf.placeAll {} (images.map (·.2))).height := by
    rw [UInt32.lt_iff_toNat_lt, UInt32.lt_iff_toNat_lt, hwidth, hheight, toNat_maxAtlasSize]
  refine ⟨Shelf.forall_mem_sumsAll_iff.2 hfits, ?bytes, ?rows, ?sides, ?refused, ?extent⟩
  case bytes =>
    intro a hpack
    rcases pack_eq_ok_iff.1 hpack with ⟨-, rfl⟩ | ⟨-, hwidth', hheight', rfl⟩
    · exact Canvas.byteNumbers_lt (by decide) (by decide)
    · exact Canvas.byteNumbers_lt hwidth' hheight'
  case rows =>
    intro a hpack e he row hrow
    have hlies' := hlies hpack e he
    have hnumbers := hlies'.rowNumbers_lt (UInt32.lt_iff_toNat_lt.1 hrow)
    rw [UInt32.ofNat_toNat] at hnumbers
    exact ⟨hnumbers, hlies'.rowInBounds hrow⟩
  case sides => exact fun a hpack e he => (hlies hpack e he).sideNumbers_lt
  case refused =>
    simp only [pack_eq_error_iff]
    rw [← hlarge]
    constructor
    · rintro ⟨e, -, hsize, -⟩
      exact hsize
    · intro hsize
      refine ⟨_, ?_, hsize, rfl⟩
      rintro rfl
      exact absurd hsize (by decide)
  case extent =>
    intro e he
    obtain ⟨-, -, rfl⟩ := pack_eq_error_iff.1 he
    exact ⟨_, _, rfl, hwidth, hheight⟩

end Pack

open TextureSource

variable {τ : Type} [TextureSource τ]

/-- For no more than 16384 images, the check is reliable exactly if all sums of the layout in natural
numbers fit into words, which they do if no side is longer than 262143. -/
theorem checksSize_iff_fitsAll (t : τ) (uris : List String) (hcount : uris.length ≤ 16384)
    (hsource : LoadsProper t) :
    (ChecksSize (((loadAll uris).run t).value.1.map (·.2)) ((build uris).run t).value.1 ↔
      ExactShelf.FitsAll {} (((loadAll uris).run t).value.1.map (·.2))) ∧
    ((∀ i ∈ ((loadAll uris).run t).value.1.map (·.2),
        i.width.toNat ≤ 262143 ∧ i.height.toNat ≤ 262143) →
      ChecksSize (((loadAll uris).run t).value.1.map (·.2)) ((build uris).run t).value.1) := by
  have hlength := length_loadAll uris t
  have hreliable (hfits : ExactShelf.FitsAll {} (((loadAll uris).run t).value.1.map (·.2))) :
      ChecksSize (((loadAll uris).run t).value.1.map (·.2)) ((build uris).run t).value.1 := by
    rw [build_value]
    exact checksSize_of_fitsAll (hlength.trans_le hcount) (isProper_loadAll hsource uris) hfits
  refine ⟨⟨fun h => Shelf.forall_mem_sumsAll_iff.1 h.layout, hreliable⟩, fun hsides => ?_⟩
  apply hreliable
  apply ExactShelf.fitsAll_of_sides_lt (by decide)
  · rw [hlength, show ExactShelf.height {} = 0 from rfl]
    omega
  · intro i hi
    have hside := hsides i hi
    omega

/-! ## Two wide images -/

/-- A row of pixels that takes up half of all positions. -/
noncomputable def wideTile : Image := ⟨2147483648, 1, pushPixels .white 2147483648 .empty⟩

theorem isProper_wideTile : wideTile.IsProper where
  width_pos := by decide
  height_pos := by decide
  wellFormed := by
    rw [Image.IsWellFormed, wideTile, size_pushPixels]
    rfl

/-- Two such rows. -/
noncomputable def wideTiles : ImageTable where
  entries := [("a", wideTile), ("b", wideTile)]
  sorted := by decide

theorem loadsProper_wideTiles : LoadsProper wideTiles := by
  apply loadsProper_table
  simp only [wideTiles, List.forall_mem_cons]
  exact ⟨isProper_wideTile, isProper_wideTile, List.forall_mem_nil _⟩

theorem loadAll_wideTiles : ((loadAll ["a", "b"]).run wideTiles).value.1 =
    [("a", wideTile), ("b", wideTile)] := rfl

/-- The right side of the second row is zero again, so it is put beside the first one: the atlas is
refused as one row high, but it would be two rows high. -/
theorem wideTiles_not_checked :
    ["a", "b"].length ≤ 16384 ∧ ["a", "b"].Nodup ∧ LoadsProper wideTiles ∧
    ((build ["a", "b"]).run wideTiles).value.1 = .error (.tooLarge 2147483648 1) ∧
    (ExactShelf.placeAll {} (((loadAll ["a", "b"]).run wideTiles).value.1.map (·.2))).width =
      2147483648 ∧
    (ExactShelf.placeAll {} (((loadAll ["a", "b"]).run wideTiles).value.1.map (·.2))).height = 2 ∧
    ¬ ChecksSize (((loadAll ["a", "b"]).run wideTiles).value.1.map (·.2))
      ((build ["a", "b"]).run wideTiles).value.1 := by
  have hrefused : ((build ["a", "b"]).run wideTiles).value.1 = .error (.tooLarge 2147483648 1) := by
    rw [build_value, pack_eq_error_iff, loadAll_wideTiles]
    exact ⟨nofun, .inl (by decide), rfl⟩
  have hexact : ExactShelf.placeAll {} (((loadAll ["a", "b"]).run wideTiles).value.1.map (·.2)) =
      ⟨2147483648, 1, 1, 2147483648⟩ := by
    rw [loadAll_wideTiles]
    decide
  refine ⟨by decide, by decide, loadsProper_wideTiles, hrefused, by rw [hexact],
    by rw [hexact]; rfl, ?_⟩
  intro h
  obtain ⟨width, height, he, -, hheight⟩ := h.extent _ hrefused
  rw [hexact] at hheight
  cases he
  exact absurd hheight (by decide)

end Atlas
end ModelPreview
