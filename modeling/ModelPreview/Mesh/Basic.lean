import ModelPreview.Geometry.Bounds
import ModelPreview.Log
import ModelPreview.Mesh.Transform

/-!
# Meshes

A mesh holds the vertex and index buffers of a model.  Every face has four vertices of its own and
six indices, which form two triangles, and remembers where its vertices start so that its texture
coordinates can be moved into an atlas.

Main definitions:

- `Mesh.ofModel`: the mesh of a model, if 16-bit indices can address its vertices.
- `Mesh.textures`: the distinct textures.
- `Mesh.remap`: texture coordinates moved into rectangles.
-/

namespace ModelPreview

/-- A vertex as the renderer sees it. -/
structure Vertex where
  /-- Where it is. -/
  position : Vec3 Float32
  /-- Which point of the texture it shows. -/
  uv : Uv
  /-- The direction its face looks. -/
  normal : Vec3 Float32
  deriving DecidableEq, Repr, Inhabited

/-- A face of a mesh: where it comes from, its texture, and where its data start. -/
structure MeshFace where
  /-- Position of the element in the model. -/
  element : Nat
  /-- The side of the element. -/
  dir : Direction
  /-- The texture. -/
  texture : String
  /-- Index of the first of its four vertices. -/
  firstVertex : Nat
  /-- Index of the first of its six indices. -/
  firstIndex : Nat
  deriving DecidableEq, Repr, Inhabited

/-- The buffers of a model. -/
structure Mesh where
  /-- The vertices. -/
  vertices : Array Vertex
  /-- The indices, three for each triangle. -/
  indices : Array UInt16
  /-- The faces. -/
  faces : Array MeshFace
  /-- The smallest box around all vertices. -/
  bounds : Bounds
  deriving Repr

/-- The number of vertices that 16-bit indices can address. -/
def maxVertices : Nat := 65536

/-- A model that needs too many vertices. -/
structure TooManyVertices where
  /-- The number of vertices needed. -/
  required : Nat
  deriving DecidableEq, Repr

/-- The text of the error. -/
def TooManyVertices.message (e : TooManyVertices) : String :=
  s!"model needs {e.required} vertices, at most {maxVertices} fit a 16-bit index buffer"

/-- The vertices of a face. -/
def faceVertices (e : Element) (t : Transform Float32) (d : Direction) (f : Face) : List Vertex :=
  let normal := t.normal d.normal
  (d.corners.zip f.uvOrFull.corners).map fun (i, uv) =>
    ⟨boxCorner e.fromCorner e.toCorner t i, uv, normal⟩

/-- The indices of two triangles over four vertices from a given one on. -/
def faceIndices (base : UInt16) : List UInt16 := [base, base + 1, base + 2, base, base + 2, base + 3]

namespace Mesh

/-- The mesh without faces. -/
def empty : Mesh := ⟨#[], #[], #[], .empty⟩

/-- Whether nothing is drawn. -/
def isEmpty (m : Mesh) : Bool := m.indices.isEmpty

/-- Append a face. -/
def addFace (m : Mesh) (index : Nat) (e : Element) (t : Transform Float32)
    (face : Direction × Face) : Mesh :=
  let first := m.vertices.size
  let firstIndex := m.indices.size
  { m with
    vertices := m.vertices ++ faceVertices e t face.1 face.2
    indices := m.indices ++ faceIndices (UInt16.ofNat first)
    faces := m.faces.push ⟨index, face.1, face.2.texture, first, firstIndex⟩ }

/-- Append the faces of an element. -/
def addElement (m : Mesh) (e : Element) (index : Nat) : Mesh :=
  let t := e.transform
  e.faces.toList.foldl (fun m f => m.addFace index e t f) m

/-- The buffers of a list of elements. -/
def ofElements (es : List Element) : Mesh :=
  es.zipIdx.foldl (fun m (e, i) => m.addElement e i) empty

/-- Compute the box around the vertices. -/
def withBounds (m : Mesh) : Mesh :=
  { m with bounds := m.vertices.foldl (fun b v => b.insert v.position) .empty }

/-- The mesh of a model. -/
def ofModel (model : Model) : Except TooManyVertices Mesh :=
  let required := model.faceCount * 4
  if maxVertices < required then .error ⟨required⟩
  else .ok (ofElements model.elements).withBounds

/-- The mesh of a model, with a log line about its size. -/
def build (model : Model) : Logged (Except TooManyVertices Mesh) := do
  match ofModel model with
  | .error e => return .error e
  | .ok mesh => do
    Logged.debug s!"Built {mesh.vertices.size} vertices, {mesh.indices.size} indices for {mesh.faces.size} faces"
    return .ok mesh

/-- The distinct textures in the order of their first appearance. -/
def textures (m : Mesh) : List String := (m.faces.toList.map (·.texture)).eraseDups

/-- Move the four vertices from `first` on into a rectangle of the texture. -/
def remapFace (vertices : Array Vertex) (first : Nat) (r : UvRect) : Array Vertex :=
  (List.range 4).foldl
    (fun vs k => vs.modify (first + k) fun v => { v with uv := r.map v.uv }) vertices

/-- Move the texture coordinates of every face into the rectangle of its texture; faces without a
rectangle keep theirs. -/
def remap (m : Mesh) (rect? : String → Option UvRect) : Mesh :=
  { m with vertices := m.faces.foldl (fun vs f =>
      match rect? f.texture with
      | none => vs
      | some r => remapFace vs f.firstVertex r) m.vertices }

end Mesh
end ModelPreview
