import ModelPreview.Geometry.UvRect
import ModelPreview.Log
import ModelPreview.Number.Binary
import ModelPreview.Texture.Source

/-!
# The atlas

A model is drawn with one image that holds all its textures.  The textures are laid out from left to
right on shelves, in the order in which they are given; a shelf that would become too wide is closed
and a new one starts below the highest texture on it.  Positions are 32-bit words.

Main definitions:

- `Shelf.place`: the layout, one image at a time.
- `Canvas.blit`: copies an image into a larger one.
- `Atlas.pack`: the atlas of a list of images.
- `Atlas.build`: loads the images and packs them.
-/

namespace ModelPreview

/-- The width at which a new shelf starts. -/
def maxRowWidth : UInt32 := 2048

/-! ## Layout -/

/-- The layout so far: where the next image goes on the current shelf, the height of that shelf, and
the width of the widest one. -/
structure Shelf where
  /-- Left side of the next image. -/
  x : UInt32 := 0
  /-- Top of the current shelf. -/
  y : UInt32 := 0
  /-- Height of the current shelf. -/
  rowHeight : UInt32 := 0
  /-- Width of all shelves. -/
  width : UInt32 := 0
  deriving DecidableEq, Repr

/-- Where an image is put: its left and upper side. -/
structure Placement where
  /-- Left side. -/
  x : UInt32
  /-- Upper side. -/
  y : UInt32
  deriving DecidableEq, Repr

namespace Shelf

/-- Start a new shelf if an image of the given width would make the current one too wide. -/
def wrap (s : Shelf) (width : UInt32) : Shelf :=
  if 0 < s.x ∧ maxRowWidth < s.x + width then { s with x := 0, y := s.y + s.rowHeight, rowHeight := 0 }
  else s

/-- Put an image onto the current shelf. -/
def push (s : Shelf) (width height : UInt32) : Shelf :=
  { s with
    x := s.x + width
    rowHeight := max s.rowHeight height
    width := max s.width (s.x + width) }

/-- Where an image goes. -/
def placement (s : Shelf) (i : Image) : Placement := ⟨(s.wrap i.width).x, (s.wrap i.width).y⟩

/-- The layout after an image. -/
def place (s : Shelf) (i : Image) : Shelf := (s.wrap i.width).push i.width i.height

/-- The layout after a list of images. -/
def placeAll (s : Shelf) (images : List Image) : Shelf := images.foldl place s

/-- Where the images of a list go. -/
def placements (s : Shelf) : List Image → List Placement
  | [] => []
  | i :: is => s.placement i :: (s.place i).placements is

/-- The height of all shelves. -/
def height (s : Shelf) : UInt32 := s.y + s.rowHeight

@[simp]
theorem length_placements (s : Shelf) (images : List Image) :
    (s.placements images).length = images.length := by
  induction images generalizing s with
  | nil => rfl
  | cons i is ih => simp [placements, ih]

end Shelf

/-! ## Copying -/

namespace Canvas

/-- Copy one row of an image to its place in the bytes of a canvas of the given width. -/
def blitRow (width : UInt32) (i : Image) (p : Placement) (canvas : ByteArray) (row : UInt32) :
    ByteArray :=
  i.rgba.copySlice (row * i.width * 4).toNat canvas (((p.y + row) * width + p.x) * 4).toNat
    (i.width * 4).toNat

/-- Copy an image to its place. -/
def blit (width : UInt32) (canvas : ByteArray) (i : Image) (p : Placement) : ByteArray :=
  (List.range i.height.toNat).foldl (fun c row => blitRow width i p c (UInt32.ofNat row)) canvas

end Canvas

/-! ## The atlas -/

/-- One image that holds all textures of a model. -/
structure Atlas where
  /-- The image. -/
  image : Image
  /-- The rectangles of the textures. -/
  rects : SortedMap String UvRect

namespace Atlas

/-- The rectangle of a texture. -/
def rect? (a : Atlas) (uri : String) : Option UvRect := a.rects.find? uri

/-- The number of textures. -/
def textureCount (a : Atlas) : Nat := a.rects.size

/-- The quotient of two words. -/
def ratio (n d : UInt32) : Float32 := Binary.ofWord n / Binary.ofWord d

/-- The rectangle of an image within an atlas of the given extent. -/
def rectOf (width height : UInt32) (i : Image) (p : Placement) : UvRect :=
  ⟨ratio p.x width, ratio p.y height, ratio (p.x + i.width) width, ratio (p.y + i.height) height⟩

/-- The atlas without textures: a white pixel. -/
def blank : Atlas := ⟨.solid 1 1 .white, ∅⟩

/-- The images of a layout copied into one. -/
def compose (width height : UInt32) (placed : List ((String × Image) × Placement)) : Atlas where
  image := {
    width := width
    height := height
    rgba := placed.foldl (fun c e => Canvas.blit width c e.1.2 e.2)
      (Image.solid width height .transparent).rgba }
  rects := .ofList (placed.map fun e => (e.1.1, rectOf width height e.1.2 e.2))

/-- The atlas of a list of images. -/
def pack (images : List (String × Image)) : Except TextureError Atlas :=
  let sources := images.map (·.2)
  let shelf := Shelf.placeAll {} sources
  if images.isEmpty then .ok blank
  else if maxAtlasSize < shelf.width ∨ maxAtlasSize < shelf.height then
    .error (.tooLarge shelf.width shelf.height)
  else .ok (compose shelf.width shelf.height (images.zip (Shelf.placements {} sources)))

/-- Load an image, or take the placeholder if that fails. -/
def loadOrPlaceholder [TextureSource τ] (uri : String) : StateT τ Logged Image := fun t => do
  match (TextureSource.load uri).run t with
  | (.ok i, t) => return (i, t)
  | (.error e, t) =>
    Logged.warn s!"{e.message}; using placeholder"
    return (.placeholder, t)

/-- Load the images of addresses in order. -/
def loadAll [TextureSource τ] : List String → StateT τ Logged (List (String × Image))
  | [] => return []
  | uri :: uris => do
    let i ← loadOrPlaceholder uri
    let is ← loadAll uris
    return (uri, i) :: is

/-- The atlas of the textures with the given addresses. -/
def build [TextureSource τ] (uris : List String) : StateT τ Logged (Except TextureError Atlas) := do
  let images ← loadAll uris
  let result := pack images
  match result with
  | .ok a =>
    if !images.isEmpty then
      Logged.debug
        s!"Packed {a.textureCount} textures into {a.image.width}x{a.image.height} atlas"
  | .error _ => pure ()
  return result

end Atlas
end ModelPreview
