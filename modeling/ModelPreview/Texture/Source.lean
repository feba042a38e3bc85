import ModelPreview.Files.Path
import ModelPreview.Files.System
import ModelPreview.SortedMap
import ModelPreview.Texture.Png

/-!
# Where textures come from

A texture source hands out the images of addresses and may change while it does so.

Main definitions:

- `TextureSource`: sources with a state.
- `FileTextures`: images in files.
- `ImageTable`: images held in memory.
-/

namespace ModelPreview

/-- What can go wrong with textures. -/
inductive TextureError where
  /-- The file of a texture cannot be read. -/
  | io (uri : String) (cause : FileError)
  /-- The file of a texture is no image. -/
  | decode (uri : String) (cause : ImageFault)
  /-- All textures together need too large an image. -/
  | tooLarge (width height : UInt32)
  deriving DecidableEq, Repr

/-- The largest side of an atlas. -/
def maxAtlasSize : UInt32 := 8192

/-- The text of a texture error. -/
def TextureError.message : TextureError → String
  | .io uri cause => s!"failed to read texture {uri}: {cause.message}"
  | .decode uri cause => s!"failed to decode texture {uri}: {cause.message}"
  | .tooLarge width height =>
    s!"texture atlas would be {width}x{height}, larger than {maxAtlasSize}"

/-- States `τ` that textures can be loaded from. -/
class TextureSource (τ : Type) where
  /-- Load the image of an address. -/
  load : String → StateM τ (Except TextureError Image)

/-- The images in the files of a file system. -/
structure FileTextures where
  /-- The files. -/
  files : FileSystem

/-- The image in the file that an address names. -/
def FileTextures.image (t : FileTextures) (uri : String) : Except TextureError Image := do
  let bytes ← (t.files.read (Path.ofUri uri)).mapError (.io uri)
  (Png.decode bytes).mapError (.decode uri)

instance : TextureSource FileTextures := ⟨fun uri t => (t.image uri, t)⟩

/-- Images held in memory under their addresses. -/
abbrev ImageTable := SortedMap String Image

/-- The image of an address, if there is one. -/
def ImageTable.image (t : ImageTable) (uri : String) : Except TextureError Image :=
  match t.find? uri with
  | some i => .ok i
  | none => .error (.io uri (.other "missing"))

instance : TextureSource ImageTable := ⟨fun uri t => (t.image uri, t)⟩

end ModelPreview
