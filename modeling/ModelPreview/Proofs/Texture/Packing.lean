import Mathlib
import ModelPreview.Proofs.Collections
import ModelPreview.Proofs.Texture.Copying

/-!
# Packing images into an atlas

The images of an atlas are loaded one after another, laid out on shelves and copied to their places.
If all rows fit there, the atlas holds every image at a place of its own and nothing else.

Main definitions:

- `TextureSource.after` and `TextureSource.shown`: a source after some loads, and the image for an
  address.
- `Atlas.BuildsTo`: an atlas is built from addresses.
- `Atlas.Holds`: an atlas holds images at places of their own.

Main results:

- `Atlas.buildsTo_iff`: an atlas is built exactly if no image is too large.
- `Atlas.build_holds_images`: an atlas that is built holds the images loaded.
- `Atlas.isSome_rect?_of_build`: the addresses with a rectangle.
-/

namespace ModelPreview

/-! ## Loading -/

/-- An image with pixels and all their bytes. -/
structure Image.IsProper (i : Image) : Prop where
  width_pos : 1 ≤ i.width
  height_pos : 1 ≤ i.height
  wellFormed : i.IsWellFormed

theorem Image.IsProper.pos {i : Image} (h : i.IsProper) :
    1 ≤ i.width.toNat ∧ 1 ≤ i.height.toNat :=
  ⟨UInt32.le_iff_toNat_le.1 h.width_pos, UInt32.le_iff_toNat_le.1 h.height_pos⟩

theorem Image.isProper_placeholder : placeholder.IsProper where
  width_pos := by decide
  height_pos := by decide
  wellFormed := by
    rw [IsWellFormed, placeholder, List.size_toByteArray]
    simp [List.length_flatMap, Pixel.toList]

namespace TextureSource

variable {τ : Type} [TextureSource τ]

/-- A source after addresses were loaded one after another. -/
def after (t : τ) (uris : List String) : τ := uris.foldl (fun t uri => ((load uri).run t).2) t

/-- The image for an address: the one loaded, or the placeholder if that fails. -/
def shown (t : τ) (uri : String) : Image :=
  match ((load uri).run t).1 with
  | .ok i => i
  | .error _ => .placeholder

/-- Whatever was loaded before, the images that a source loads are proper. -/
def LoadsProper (t : τ) : Prop :=
  ∀ known uri i, ((load uri).run (after t known)).1 = .ok i → i.IsProper

theorem LoadsProper.shown {t : τ} (h : LoadsProper t) (known : List String) (uri : String) :
    (TextureSource.shown (after t known) uri).IsProper := by
  unfold TextureSource.shown
  split
  · rename_i i hload
    exact h known uri i hload
  · exact Image.isProper_placeholder

/-- Images held in memory stay there. -/
theorem after_table (t : ImageTable) (uris : List String) : after t uris = t := by
  induction uris with
  | nil => rfl
  | cons uri uris ih => exact ih

/-- A table loads proper images if it holds no others. -/
theorem loadsProper_table {t : ImageTable} (h : ∀ e ∈ t.entries, e.2.IsProper) : LoadsProper t := by
  intro known uri i hload
  rw [after_table] at hload
  change t.image uri = .ok i at hload
  unfold ImageTable.image at hload
  split at hload
  · rename_i j hfind
    obtain rfl := Except.ok.inj hload
    exact h _ (SortedMap.find?_eq_some_iff.1 hfind)
  · cases hload

end TextureSource

namespace Atlas

open TextureSource

variable {τ : Type} [TextureSource τ]

theorem loadOrPlaceholder_value (uri : String) (t : τ) :
    ((loadOrPlaceholder uri).run t).value = (shown t uri, after t [uri]) := by
  change (loadOrPlaceholder uri t).value = _
  unfold loadOrPlaceholder shown after
  split
  · rename_i i t' hload
    simp [hload]
  · rename_i e t' hload
    simp [hload]

theorem loadAll_cons_value (uri : String) (uris : List String) (t : τ) :
    ((loadAll (uri :: uris)).run t).value =
      ((uri, shown t uri) :: ((loadAll uris).run (after t [uri])).value.1,
        ((loadAll uris).run (after t [uri])).value.2) := by
  have hfirst := loadOrPlaceholder_value uri t
  simp only [loadAll, StateT.run_bind, Logged.value_bind, hfirst, StateT.run_pure, Logged.value_pure]

/-- Every address is loaded once, in order. -/
theorem loadAll_source (uris : List String) (t : τ) :
    ((loadAll uris).run t).value.2 = after t uris := by
  induction uris generalizing t with
  | nil => rfl
  | cons uri uris ih =>
    rw [loadAll_cons_value]
    exact ih (after t [uri])

theorem loadAll_getElem? (uris : List String) (t : τ) (k : Nat) :
    ((loadAll uris).run t).value.1[k]? =
      uris[k]?.map fun uri => (uri, shown (after t (uris.take k)) uri) := by
  induction uris generalizing t k with
  | nil => rfl
  | cons uri uris ih =>
    rw [loadAll_cons_value]
    cases k with
    | zero => rfl
    | succ k => exact ih (after t [uri]) k

theorem build_value (uris : List String) (t : τ) :
    ((build uris).run t).value = (pack ((loadAll uris).run t).value.1, after t uris) := by
  rw [← loadAll_source]
  unfold build
  simp only [StateT.run_bind, Logged.value_bind]
  cases pack ((loadAll uris).run t).value.1 with
  | error e => rfl
  | ok a =>
    cases ((loadAll uris).run t).value.1.isEmpty with
    | true => rfl
    | false => rfl

/-! ## Packing -/

/-- Images with their places in an atlas. -/
def placed (images : List (String × Image)) : List ((String × Image) × Placement) :=
  images.zip (Shelf.placements {} (images.map (·.2)))

/-- The rows of all images fit where the layout puts them. -/
def RowsFit (a : Atlas) (images : List Image) : Prop :=
  ∀ e ∈ Shelf.layout {} images, Canvas.RowsFit a.image.width a.image.height e.1 e.2

/-- An atlas is built from addresses: building gives it, and every row ends within its bytes.
Copying a row that does not is a fault, after which there is no atlas. -/
structure BuildsTo (t : τ) (uris : List String) (a : Atlas) : Prop where
  value : ((build uris).run t).value.1 = .ok a
  rowsFit : a.RowsFit (((loadAll uris).run t).value.1.map (·.2))

/-- An atlas holds images under their addresses at places of their own. -/
structure Holds (a : Atlas) (entries : List ((String × Image) × Placement)) : Prop where
  width_le : a.image.width ≤ maxAtlasSize
  height_le : a.image.height ≤ maxAtlasSize
  wellFormed : a.image.IsWellFormed
  inside : ∀ e ∈ entries, e.2.x.toNat + e.1.2.width.toNat ≤ a.image.width.toNat ∧
    e.2.y.toNat + e.1.2.height.toNat ≤ a.image.height.toNat
  disjoint : entries.Pairwise fun d e => Disjoint (d.1.2.cells d.2) (e.1.2.cells e.2)
  pixel : ∀ e ∈ entries, ∀ x < e.1.2.width.toNat, ∀ y < e.1.2.height.toNat,
    ∃ c, e.1.2.pixel? x y = some c ∧ a.image.pixel? (e.2.x.toNat + x) (e.2.y.toNat + y) = some c
  background : entries ≠ [] → ∀ x < a.image.width.toNat, ∀ y < a.image.height.toNat,
    (∀ e ∈ entries, (x, y) ∉ e.1.2.cells e.2) → a.image.pixel? x y = some .transparent
  rect : ∀ e ∈ entries, ∃ right bottom : UInt32,
    right.toNat = e.2.x.toNat + e.1.2.width.toNat ∧
    bottom.toNat = e.2.y.toNat + e.1.2.height.toNat ∧
    a.rect? e.1.1 = some ⟨ratio e.2.x a.image.width, ratio e.2.y a.image.height,
      ratio right a.image.width, ratio bottom a.image.height⟩

theorem holds_blank : blank.Holds [] where
  width_le := by decide
  height_le := by decide
  wellFormed := Image.isWellFormed_solid .white (by decide)
  inside := nofun
  disjoint := .nil
  pixel := nofun
  background := fun h => absurd rfl h
  rect := nofun

section Compose

variable {width height : UInt32} {entries : List ((String × Image) × Placement)}

/-- The images of an atlas without their addresses. -/
def sheet (entries : List ((String × Image) × Placement)) : List (Image × Placement) :=
  entries.map fun e => (e.1.2, e.2)

theorem compose_rgba (width height : UInt32) (entries : List ((String × Image) × Placement)) :
    (compose width height entries).image.rgba =
      Canvas.blitAll width (Image.solid width height .transparent).rgba (sheet entries) := by
  rw [Canvas.blitAll, sheet, List.foldl_map]
  rfl

/-- The rectangle of an entry, if no other entry has its address. -/
theorem compose_rect? (hkeys : (entries.map (·.1.1)).Nodup) {e : (String × Image) × Placement}
    (he : e ∈ entries) :
    (compose width height entries).rect? e.1.1 = some (rectOf width height e.1.2 e.2) := by
  apply SortedMap.find?_ofList_of_mem
  · rwa [List.map_map]
  · exact List.mem_map_of_mem (f := fun e => (e.1.1, rectOf width height e.1.2 e.2)) he

/-- Images that lie within an atlas without overlap are held by it. -/
theorem holds_compose (hwidth : width ≤ maxAtlasSize) (hheight : height ≤ maxAtlasSize)
    (hlies : ∀ e ∈ entries, Canvas.Lies width height e.1.2 e.2)
    (hdisjoint : entries.Pairwise fun d e => Disjoint (d.1.2.cells d.2) (e.1.2.cells e.2))
    (hkeys : (entries.map (·.1.1)).Nodup) : (compose width height entries).Holds entries := by
  have harea : width.toNat * height.toNat < 2 ^ 30 := by
    have hle := Nat.mul_le_mul (UInt32.le_iff_toNat_le.1 hwidth) (UInt32.le_iff_toNat_le.1 hheight)
    exact hle.trans_lt (by decide)
  have hcanvas : (Image.solid width height .transparent).rgba.size =
      4 * (width.toNat * height.toNat) := Image.isWellFormed_solid .transparent harea
  have hsheet : ∀ e ∈ sheet entries, Canvas.Lies width height e.1 e.2 := by
    intro e he
    obtain ⟨d, hd, rfl⟩ := List.mem_map.1 he
    exact hlies d hd
  have hpixel : ∀ x y, (compose width height entries).image.pixel? x y =
      Canvas.pixelAt? (Canvas.blitAll width (Image.solid width height .transparent).rgba
        (sheet entries)) (y * width.toNat + x) := by
    intro x y
    rw [← compose_rgba]
    rfl
  refine ⟨hwidth, hheight, ?_, ?_, hdisjoint, ?_, ?_, ?_⟩
  · rw [Image.IsWellFormed, compose_rgba]
    exact Canvas.size_blitAll hcanvas hsheet
  · intro e he
    exact ⟨(hlies e he).right_le, (hlies e he).bottom_le⟩
  · intro e he x hx y hy
    obtain ⟨c, hc⟩ := (hlies e he).wellFormed.exists_pixel? hx hy
    have hright := (hlies e he).right_le
    have hmem : (e.2.x.toNat + x, e.2.y.toNat + y) ∈ e.1.2.cells e.2 :=
      Image.mem_cells.2 (by omega)
    refine ⟨c, hc, ?_⟩
    rw [hpixel, Canvas.pixel_blitAll_of_mem hcanvas hsheet (List.pairwise_map.2 hdisjoint)
      (List.mem_map_of_mem he) (by omega) hmem, Nat.add_sub_cancel_left, Nat.add_sub_cancel_left, hc]
  · intro _ x hx y hy hnone
    have hnone' : ∀ e ∈ sheet entries, (x, y) ∉ e.1.cells e.2 := by
      intro e he
      obtain ⟨d, hd, rfl⟩ := List.mem_map.1 he
      exact hnone d hd
    rw [hpixel, Canvas.pixel_blitAll_of_forall_notMem hcanvas hsheet hx hnone']
    exact Image.solid_pixel? .transparent harea hx hy
  · intro e he
    have hright := (hlies e he).right_le
    have hbottom := (hlies e he).bottom_le
    refine ⟨e.2.x + e.1.2.width, e.2.y + e.1.2.height, ?_, ?_, compose_rect? hkeys he⟩
    · exact toNat_add_of_lt (hright.trans_lt width.toNat_lt)
    · exact toNat_add_of_lt (hbottom.trans_lt height.toNat_lt)

end Compose

/-- What it takes to pack images. -/
theorem pack_eq_ok_iff {images : List (String × Image)} {a : Atlas} :
    pack images = .ok a ↔ images = [] ∧ a = blank ∨
      let shelf := Shelf.placeAll {} (images.map (·.2))
      images ≠ [] ∧ shelf.width ≤ maxAtlasSize ∧ shelf.height ≤ maxAtlasSize ∧
        a = compose shelf.width shelf.height (placed images) := by
  cases images with
  | nil => simp [pack, eq_comm]
  | cons e images =>
    simp only [pack, List.isEmpty_cons, Bool.false_eq_true, if_false, reduceCtorEq, false_and,
      false_or, ne_eq, not_false_eq_true, true_and]
    split
    · rename_i hlarge
      simp only [reduceCtorEq, false_iff]
      rintro ⟨hwidth, hheight, -⟩
      rcases hlarge with hlarge | hlarge
      · exact UInt32.not_lt.2 hwidth hlarge
      · exact UInt32.not_lt.2 hheight hlarge
    · rename_i hsmall
      rw [not_or, UInt32.not_lt, UInt32.not_lt] at hsmall
      rw [Except.ok.injEq, eq_comm]
      exact ⟨fun h => ⟨hsmall.1, hsmall.2, h⟩, fun h => h.2.2⟩

theorem sheet_placed (images : List (String × Image)) :
    sheet (placed images) = Shelf.layout {} (images.map (·.2)) := by
  rw [Shelf.layout, List.zip_map_left]
  rfl

theorem placed_map_fst (images : List (String × Image)) :
    (placed images).map (·.1) = images := by
  apply List.map_fst_zip
  simp

theorem placed_map_address (images : List (String × Image)) :
    (placed images).map (·.1.1) = images.map (·.1) := by
  have hnames : (placed images).map (·.1.1) = ((placed images).map (·.1)).map (·.1) := by
    rw [List.map_map]
    rfl
  rw [hnames, placed_map_fst]

/-- Packing gives a rectangle to the address of each image and to no other one. -/
theorem isSome_rect?_of_pack {images : List (String × Image)} {a : Atlas}
    (hpack : pack images = .ok a) (uri : String) :
    (a.rect? uri).isSome = true ↔ uri ∈ images.map (·.1) := by
  rcases pack_eq_ok_iff.1 hpack with ⟨rfl, rfl⟩ | ⟨-, -, -, rfl⟩
  · simp [rect?, blank]
  · rw [← placed_map_address, rect?, compose, SortedMap.isSome_find?_ofList, List.map_map]
    rfl

/-- Nothing overflows in the layout of small images. -/
theorem room_of_isSmall {images : List Image} (hcount : images.length ≤ 16384)
    (hwidth : (Shelf.placeAll {} images).width ≤ maxAtlasSize)
    (hsmall : ∀ i ∈ images, i.IsSmall) : Shelf.Room {} images where
  covers := Shelf.covers_start
  width_le := UInt32.le_iff_toNat_le.1 hwidth
  small := hsmall
  height_lt := by
    change 0 + 8192 * images.length < 2 ^ 32
    omega

section Layout

variable {images : List Image} (hproper : ∀ i ∈ images, i.IsProper)
  (hwidth : (Shelf.placeAll {} images).width ≤ maxAtlasSize)
  (hheight : (Shelf.placeAll {} images).height ≤ maxAtlasSize)

include hproper hwidth hheight

/-- Images whose rows fit are small. -/
theorem isSmall_of_rowsFit (hfit : ∀ e ∈ Shelf.layout {} images,
      Canvas.RowsFit (Shelf.placeAll {} images).width (Shelf.placeAll {} images).height e.1 e.2) :
    ∀ i ∈ images, i.IsSmall := by
  intro i hi
  obtain ⟨p, hp⟩ := Shelf.exists_mem_layout {} hi
  obtain ⟨hleft, hright⟩ := Shelf.sides_le_width Shelf.covers_start hp
  exact (hfit (i, p) hp).isSmall (UInt32.le_iff_toNat_le.1 hwidth)
    (UInt32.le_iff_toNat_le.1 hheight) hleft hright (hproper i hi).pos

/-- Small images lie within the extent of their layout. -/
theorem lies_of_isSmall (hcount : images.length ≤ 16384) (hsmall : ∀ i ∈ images, i.IsSmall) :
    ∀ e ∈ Shelf.layout {} images,
      Canvas.Lies (Shelf.placeAll {} images).width (Shelf.placeAll {} images).height e.1 e.2 := by
  intro e he
  have hroom := room_of_isSmall hcount hwidth hsmall
  obtain ⟨hright, hbottom⟩ := hroom.inside he
  have himage : e.1 ∈ images := (List.of_mem_zip he).1
  exact ⟨(hproper e.1 himage).wellFormed, hroom.width_le, UInt32.le_iff_toNat_le.1 hheight, hright,
    hroom.toNat_height ▸ hbottom⟩

end Layout

section Pack

variable {images : List (String × Image)} {a : Atlas} (hpack : pack images = .ok a)
  (hcount : (images.map (·.2)).length ≤ 16384) (hproper : ∀ i ∈ images.map (·.2), i.IsProper)

include hpack hcount hproper

/-- The rows of all images fit exactly if no image is larger than an atlas can be. -/
theorem rowsFit_iff_isSmall :
    a.RowsFit (images.map (·.2)) ↔ ∀ i ∈ images.map (·.2), i.IsSmall := by
  rcases pack_eq_ok_iff.1 hpack with ⟨rfl, rfl⟩ | ⟨-, hwidth, hheight, rfl⟩
  · exact ⟨fun _ => nofun, fun _ => nofun⟩
  · constructor
    · exact isSmall_of_rowsFit hproper hwidth hheight
    · intro hsmall e he
      exact (lies_of_isSmall hproper hwidth hheight hcount hsmall e he).rowsFit

/-- Images that can be packed are held by their atlas. -/
theorem holds_placed (hkeys : (images.map (·.1)).Nodup) (hfit : a.RowsFit (images.map (·.2))) :
    a.Holds (placed images) := by
  have hsmall := (rowsFit_iff_isSmall hpack hcount hproper).1 hfit
  rcases pack_eq_ok_iff.1 hpack with ⟨rfl, rfl⟩ | ⟨-, hwidth, hheight, rfl⟩
  · exact holds_blank
  have hsheet := sheet_placed images
  apply holds_compose hwidth hheight
  · intro e he
    apply lies_of_isSmall hproper hwidth hheight hcount hsmall (e.1.2, e.2)
    rw [← hsheet]
    exact List.mem_map_of_mem he
  · have hdisjoint := (room_of_isSmall hcount hwidth hsmall).pairwise_disjoint
    rwa [← hsheet, sheet, List.pairwise_map] at hdisjoint
  · rwa [placed_map_address]

end Pack

/-! ## Building -/

theorem loadAll_map_fst (uris : List String) (t : τ) :
    ((loadAll uris).run t).value.1.map (·.1) = uris := by
  apply List.ext_getElem?
  intro k
  rw [List.getElem?_map, loadAll_getElem?, Option.map_map]
  exact congrFun Option.map_id uris[k]?

/-- An atlas that is built has a rectangle for each of its addresses and for no other one. -/
theorem isSome_rect?_of_build {uris : List String} {t : τ} {a : Atlas}
    (hbuild : ((build uris).run t).value.1 = .ok a) (uri : String) :
    (a.rect? uri).isSome = true ↔ uri ∈ uris := by
  rw [build_value] at hbuild
  have hrect := isSome_rect?_of_pack hbuild uri
  rwa [loadAll_map_fst] at hrect

theorem length_loadAll (uris : List String) (t : τ) :
    (((loadAll uris).run t).value.1.map (·.2)).length = uris.length := by
  rw [List.length_map, ← List.length_map (·.1), loadAll_map_fst]

theorem isProper_loadAll {t : τ} (h : LoadsProper t) (uris : List String) :
    ∀ i ∈ ((loadAll uris).run t).value.1.map (·.2), i.IsProper := by
  intro i hi
  obtain ⟨k, hk⟩ := List.mem_iff_getElem?.1 hi
  rw [List.getElem?_map, loadAll_getElem?, Option.map_map] at hk
  obtain ⟨uri, -, rfl⟩ := Option.map_eq_some_iff.1 hk
  exact h.shown (uris.take k) uri

section Built

variable {t : τ} {uris : List String} {a : Atlas} (hsource : LoadsProper t)
  (hcount : uris.length ≤ 16384)

include hsource hcount

/-- An atlas is built exactly if its value is given and no image is larger than an atlas can be. -/
theorem buildsTo_iff : BuildsTo t uris a ↔ ((build uris).run t).value.1 = .ok a ∧
    ∀ i ∈ ((loadAll uris).run t).value.1.map (·.2), i.IsSmall := by
  have hiff (hvalue : ((build uris).run t).value.1 = .ok a) := by
    rw [build_value] at hvalue
    exact rowsFit_iff_isSmall hvalue ((length_loadAll uris t).trans_le hcount)
      (isProper_loadAll hsource uris)
  constructor
  · rintro ⟨hvalue, hfit⟩
    exact ⟨hvalue, (hiff hvalue).1 hfit⟩
  · rintro ⟨hvalue, hsmall⟩
    exact ⟨hvalue, (hiff hvalue).2 hsmall⟩

theorem BuildsTo.holds (hnodup : uris.Nodup) (h : BuildsTo t uris a) :
    a.Holds (placed ((loadAll uris).run t).value.1) := by
  have hpack := h.value
  rw [build_value] at hpack
  apply holds_placed hpack ((length_loadAll uris t).trans_le hcount) (isProper_loadAll hsource uris)
  · rwa [loadAll_map_fst]
  · exact h.rowsFit

end Built

/-- If an atlas is built from different addresses, not too many of them, then it holds for every
address the image loaded for it, and every address is loaded once and in order. -/
theorem build_holds_images (t : τ) (uris : List String) (a : Atlas) (hcount : uris.length ≤ 16384)
    (hnodup : uris.Nodup) (hsource : LoadsProper t) (hbuild : BuildsTo t uris a) :
    ((build uris).run t).value.2 = after t uris ∧
    ∃ entries, a.Holds entries ∧ ∀ k : Nat, entries[k]?.map (·.1) =
      uris[k]?.map fun uri => (uri, shown (after t (uris.take k)) uri) := by
  constructor
  · rw [build_value]
  refine ⟨placed ((loadAll uris).run t).value.1, hbuild.holds hsource hcount hnodup, ?_⟩
  intro k
  rw [← List.getElem?_map, placed_map_fst, loadAll_getElem?]

/-! ## A small atlas -/

/-- Two images that do not go onto one shelf. -/
def tiles : ImageTable where
  entries := [("a", .solid 1500 2 .white), ("b", .solid 1000 3 .black)]
  sorted := by decide

theorem loadsProper_tiles : LoadsProper tiles := by
  apply loadsProper_table
  simp only [tiles, List.forall_mem_cons]
  exact ⟨⟨by decide, by decide, Image.isWellFormed_solid .white (by decide)⟩,
    ⟨by decide, by decide, Image.isWellFormed_solid .black (by decide)⟩, List.forall_mem_nil _⟩

/-- The images loaded for two addresses that are known and one that is not. -/
theorem loadAll_tiles : ((loadAll ["a", "b", "c"]).run tiles).value.1 =
    [("a", .solid 1500 2 .white), ("b", .solid 1000 3 .black), ("c", .placeholder)] := rfl

theorem build_holds_tiles :
    ["a", "b", "c"].length ≤ 16384 ∧ ["a", "b", "c"].Nodup ∧ LoadsProper tiles ∧
    ∃ a, BuildsTo tiles ["a", "b", "c"] a ∧ a.image.width = 1500 ∧ a.image.height = 18 ∧
      ((build ["a", "b", "c"]).run tiles).value.2 = after tiles ["a", "b", "c"] ∧
      ∃ entries, a.Holds entries ∧ ∀ k : Nat, entries[k]?.map (·.1) =
        ["a", "b", "c"][k]?.map fun uri =>
          (uri, shown (after tiles (["a", "b", "c"].take k)) uri) := by
  have hcount : ["a", "b", "c"].length ≤ 16384 := by decide
  have hnodup : ["a", "b", "c"].Nodup := by decide
  have hbuild : BuildsTo tiles ["a", "b", "c"] (compose 1500 18
      (placed ((loadAll ["a", "b", "c"]).run tiles).value.1)) := by
    have hshelf : Shelf.placeAll {} (((loadAll ["a", "b", "c"]).run tiles).value.1.map (·.2)) =
        ⟨1016, 2, 16, 1500⟩ := by
      rw [loadAll_tiles]
      rfl
    rw [buildsTo_iff loadsProper_tiles hcount, build_value, pack_eq_ok_iff, hshelf]
    refine ⟨.inr ⟨?_, by decide, by decide, rfl⟩, ?_⟩
    · rw [loadAll_tiles]
      exact nofun
    · rw [loadAll_tiles]
      simp [Image.IsSmall, Image.solid, Image.placeholder, toNat_maxAtlasSize]
  exact ⟨hcount, hnodup, loadsProper_tiles, _, hbuild, rfl, rfl,
    build_holds_images tiles _ _ hcount hnodup loadsProper_tiles hbuild⟩

end Atlas
end ModelPreview
