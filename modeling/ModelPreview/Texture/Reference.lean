/-!
# Texture references

A reference names a texture by a namespace and a path, separated by a colon.  Without a colon the
namespace is the default one.  References are mapped to addresses by a fixed layout of directories
below a root.

Main definitions:

- `TextureRef.parse?` and `TextureRef.toText`: reading and writing references.
- `TextureRef.uri`: the address of a texture.
-/

namespace ModelPreview

/-- The namespace of a reference that names none. -/
def defaultNamespace : String := "minecraft"

/-- A reference to a texture. -/
structure TextureRef where
  /-- The namespace. -/
  space : String
  /-- The path within the namespace. -/
  path : String
  deriving DecidableEq, Repr

/-- Split a list at the first occurrence of an element, which is left out. -/
def splitFirst [DecidableEq α] (a : α) : List α → Option (List α × List α)
  | [] => none
  | b :: bs => if b = a then some ([], bs) else (splitFirst a bs).map fun (l, r) => (b :: l, r)

namespace TextureRef

/-- The reference a text stands for; neither part may be empty. -/
def parse? (raw : String) : Option TextureRef :=
  let (space, path) :=
    match splitFirst ':' raw.toList with
    | some (space, path) => (String.ofList space, String.ofList path)
    | none => (defaultNamespace, raw)
  if space = "" ∨ path = "" then none else some ⟨space, path⟩

/-- The reference with its namespace spelled out. -/
def toText (r : TextureRef) : String := r.space ++ ":" ++ r.path

end TextureRef

/-- A text without the slashes at its end. -/
def trimSlashes (s : String) : String :=
  String.ofList (s.toList.reverse.dropWhile (· = '/')).reverse

/-- The address of a texture below a root directory. -/
def TextureRef.uri (r : TextureRef) (root : String) : String :=
  trimSlashes root ++ "/assets/" ++ r.space ++ "/textures/" ++ r.path ++ ".png"

end ModelPreview
