import Mathlib
import ModelPreview.Proofs.Mesh.Ownership

/-!
# The buffers of a mesh

A mesh is built by appending one face after another, so its three buffers are put together from
blocks of equal length: one entry, four vertices and six indices for every face.  The block of a face
is found at the number of the face in the list of all present faces, and since at most 65536 vertices
are allowed, no index is cut off.

Main definitions:

- `Model.placedFaces`: the present faces of a model with their elements and sides.
- `Mesh.Blocks`: the buffers of a mesh are the blocks of a list of faces.
- `Mesh.ShowsFace`: what stands in the buffers about one face.

Main results:

- `Model.mem_placedFaces_iff` and `Model.pairwise_placedFaces`: the list has exactly the present
  faces, in order of elements and sides.
- `Mesh.blocks_ofElements`: the mesh of a model consists of the blocks of its faces.
- `Mesh.build_fills_buffers`: when a mesh is built, and every entry of its buffers.
-/

namespace ModelPreview

/-! ## The faces of a model -/

/-- A present face with its place in the model. -/
structure PlacedFace where
  /-- The position of the element. -/
  index : Nat
  /-- The element. -/
  element : Element
  /-- The side. -/
  dir : Direction
  /-- The face. -/
  face : Face

namespace PlacedFace

/-- A face is visited before another one if its element stands in front, or if its side comes first
in the same element. -/
def Precedes (p q : PlacedFace) : Prop :=
  p.index < q.index ∨
    p.index = q.index ∧ Direction.all.idxOf p.dir < Direction.all.idxOf q.dir

/-- The four vertices of a face. -/
def vertices (p : PlacedFace) : List Vertex :=
  faceVertices p.element p.element.transform p.dir p.face

theorem length_vertices (p : PlacedFace) : p.vertices.length = 4 :=
  Mesh.length_faceVertices _ _ _ _

/-- The vertices are the corners of the side, moved with the element. -/
theorem map_position_vertices (p : PlacedFace) : p.vertices.map Vertex.position =
    p.dir.corners.map
      (boxCorner p.element.fromCorner p.element.toCorner p.element.transform) := by
  obtain ⟨index, e, dir, face⟩ := p
  cases dir <;> rfl

theorem map_uv_vertices (p : PlacedFace) :
    p.vertices.map Vertex.uv = p.face.uvOrFull.corners := by
  obtain ⟨index, e, dir, face⟩ := p
  cases dir <;> rfl

theorem map_normal_vertices (p : PlacedFace) : p.vertices.map Vertex.normal =
    List.replicate 4 (p.element.transform.normal p.dir.normal) := by
  obtain ⟨index, e, dir, face⟩ := p
  cases dir <;> rfl

/-- The entry of a face that is the `k`-th one. -/
def entry (p : PlacedFace) (k : Nat) : MeshFace := ⟨p.index, p.dir, p.face.texture, 4 * k, 6 * k⟩

end PlacedFace

/-- The present faces of an element. -/
def Element.placedFaces (e : Element) (index : Nat) : List PlacedFace :=
  e.faces.toList.map fun f => ⟨index, e, f.1, f.2⟩

namespace Model

/-- The present faces of a model in the order in which they are visited. -/
def placedFaces (m : Model) : List PlacedFace :=
  m.elements.zipIdx.flatMap fun e => e.1.placedFaces e.2

theorem length_placedFaces (m : Model) : m.placedFaces.length = m.faceCount := by
  have hfst : m.elements.flatMap (fun e => e.faces.toList) =
      m.elements.zipIdx.flatMap fun e => e.1.faces.toList := by
    conv_lhs => rw [← List.zipIdx_map_fst 0 m.elements]
    rw [List.flatMap_map]
  simp [placedFaces, faceCount, hfst, Element.placedFaces, List.length_flatMap]

end Model

theorem Faces.mem_toList_iff {f : Faces} {d : Direction} {face : Face} :
    (d, face) ∈ f.toList ↔ f.get? d = some face := by
  simp only [toList, List.mem_filterMap, Option.map_eq_some_iff, Prod.mk.injEq]
  constructor
  · rintro ⟨d', -, face', hget, rfl, rfl⟩
    exact hget
  · intro hget
    exact ⟨d, d.mem_all, face, hget, rfl, rfl⟩

/-- The faces of an element are listed in the order of the sides. -/
theorem Faces.pairwise_toList (f : Faces) :
    f.toList.Pairwise fun a b => Direction.all.idxOf a.1 < Direction.all.idxOf b.1 := by
  have hall : Direction.all.Pairwise fun d e => Direction.all.idxOf d < Direction.all.idxOf e := by
    decide
  rw [toList, List.pairwise_filterMap]
  refine hall.imp ?_
  intro d e hlt a ha b hb
  obtain ⟨_, -, rfl⟩ := Option.map_eq_some_iff.1 ha
  obtain ⟨_, -, rfl⟩ := Option.map_eq_some_iff.1 hb
  exact hlt

namespace Model

/-- The listed faces are the present ones. -/
theorem mem_placedFaces_iff {m : Model} {p : PlacedFace} :
    p ∈ m.placedFaces ↔
      m.elements[p.index]? = some p.element ∧ p.element.faces.get? p.dir = some p.face := by
  simp only [placedFaces, Element.placedFaces, List.mem_flatMap, List.mem_map, Prod.exists,
    List.mem_zipIdx_iff_getElem?, Faces.mem_toList_iff]
  constructor
  · rintro ⟨e, i, he, d, f, hf, rfl⟩
    exact ⟨he, hf⟩
  · rintro ⟨he, hf⟩
    exact ⟨p.element, p.index, he, p.dir, p.face, hf, rfl⟩

/-- They are listed in the order in which they are visited. -/
theorem pairwise_placedFaces (m : Model) : m.placedFaces.Pairwise PlacedFace.Precedes := by
  have hindex : m.elements.zipIdx.Pairwise fun a b => a.2 < b.2 := by
    have hrange : (List.range' 0 m.elements.length).Pairwise (· < ·) := List.pairwise_lt_range'
    rw [← List.zipIdx_map_snd 0 m.elements] at hrange
    exact List.pairwise_map.1 hrange
  rw [placedFaces, List.pairwise_flatMap]
  constructor
  · rintro ⟨e, i⟩ -
    rw [Element.placedFaces, List.pairwise_map]
    exact e.faces.pairwise_toList.imp fun hlt => Or.inr ⟨rfl, hlt⟩
  · refine hindex.imp ?_
    intro a b hlt p hp q hq
    obtain ⟨_, -, rfl⟩ := List.mem_map.1 hp
    obtain ⟨_, -, rfl⟩ := List.mem_map.1 hq
    exact Or.inl hlt

end Model

/-! ## Blocks -/

namespace Mesh

/-- The indices of the `k`-th face. -/
def indexBlock (k : Nat) : List UInt16 := faceIndices (UInt16.ofNat (4 * k))

theorem length_indexBlock (k : Nat) : (indexBlock k).length = 6 := rfl

/-- The buffers of a mesh are the blocks of a list of faces, one after another. -/
structure Blocks (m : Mesh) (faces : List PlacedFace) : Prop where
  vertices : m.vertices.toList = faces.flatMap PlacedFace.vertices
  indices : m.indices.toList = (List.range faces.length).flatMap indexBlock
  entries : m.faces.toList = faces.mapIdx fun k p => p.entry k

theorem length_blocks {α β : Type} {n : Nat} {l : List α} {f : α → List β}
    (h : ∀ a ∈ l, (f a).length = n) : (l.flatMap f).length = n * l.length := by
  induction l with
  | nil => rfl
  | cons a l ih =>
    have hhead := h a List.mem_cons_self
    have htail := ih fun b hb => h b (List.mem_cons_of_mem a hb)
    rw [List.flatMap_cons, List.length_append, hhead, htail, List.length_cons]
    ring

/-- A block of a buffer is found at its number times the common length. -/
theorem take_drop_blocks {α β : Type} {n : Nat} {l : List α} {f : α → List β}
    (h : ∀ a ∈ l, (f a).length = n) {k : Nat} {a : α} (hk : l[k]? = some a) :
    ((l.flatMap f).drop (n * k)).take n = f a := by
  obtain ⟨hlt, rfl⟩ := List.getElem?_eq_some_iff.1 hk
  have hfront : ((l.take k).flatMap f).length = n * k := by
    rw [length_blocks fun b hb => h b (List.mem_of_mem_take hb), List.length_take,
      Nat.min_eq_left hlt.le]
  have hblock : (f l[k]).length = n := h _ (List.getElem_mem hlt)
  have hsplit : l.flatMap f = (l.take k).flatMap f ++ (f l[k] ++ (l.drop (k + 1)).flatMap f) := by
    conv_lhs => rw [← List.take_append_drop k l, ← List.getElem_cons_drop hlt]
    rw [List.flatMap_append, List.flatMap_cons]
  rw [hsplit, ← hfront, List.drop_left, ← hblock, List.take_left]

namespace Blocks

variable {m : Mesh} {faces : List PlacedFace}

theorem size_vertices (h : m.Blocks faces) : m.vertices.size = 4 * faces.length := by
  rw [← Array.length_toList, h.vertices, length_blocks fun p _ => p.length_vertices]

theorem size_indices (h : m.Blocks faces) : m.indices.size = 6 * faces.length := by
  rw [← Array.length_toList, h.indices, length_blocks fun k _ => length_indexBlock k, List.length_range]

theorem size_faces (h : m.Blocks faces) : m.faces.size = faces.length := by
  rw [← Array.length_toList, h.entries, List.length_mapIdx]

/-- Appending a face appends its block. -/
theorem addFace (h : m.Blocks faces) (p : PlacedFace) :
    (m.addFace p.index p.element p.element.transform (p.dir, p.face)).Blocks (faces ++ [p]) := by
  refine ⟨?_, ?_, ?_⟩
  · rw [Mesh.addFace, Array.toList_appendList, h.vertices, List.flatMap_append, List.flatMap_singleton]
    rfl
  · rw [Mesh.addFace, Array.toList_appendList, h.indices, h.size_vertices, List.length_append,
      List.length_singleton, List.range_succ, List.flatMap_append, List.flatMap_singleton]
    rfl
  · rw [Mesh.addFace, Array.toList_push, h.entries, h.size_vertices, h.size_indices,
      List.mapIdx_append]
    simp [PlacedFace.entry]

theorem addElement (h : m.Blocks faces) (e : Element) (index : Nat) :
    (m.addElement e index).Blocks (faces ++ e.placedFaces index) := by
  unfold Mesh.addElement Element.placedFaces
  induction e.faces.toList generalizing m faces with
  | nil => simpa using h
  | cons f fs ih =>
    have hrest := ih (h.addFace ⟨index, e, f.1, f.2⟩)
    rw [List.append_assoc] at hrest
    exact hrest

end Blocks

/-- The mesh of a list of elements consists of the blocks of their faces. -/
theorem blocks_ofElements (es : List Element) :
    (ofElements es).Blocks (es.zipIdx.flatMap fun e => e.1.placedFaces e.2) := by
  have hfold : ∀ (es : List (Element × Nat)) {m : Mesh} {faces : List PlacedFace},
      m.Blocks faces → (es.foldl (fun m e => m.addElement e.1 e.2) m).Blocks
        (faces ++ es.flatMap fun e => e.1.placedFaces e.2) := by
    intro es
    induction es with
    | nil =>
      intro m faces h
      simpa using h
    | cons e es ih =>
      intro m faces h
      have hrest := ih (h.addElement e.1 e.2)
      rw [List.append_assoc] at hrest
      exact hrest
  have hempty : empty.Blocks [] := ⟨rfl, rfl, rfl⟩
  exact hfold es.zipIdx hempty

theorem build_value (model : Model) :
    (build model).value =
      if 65536 < 4 * model.faceCount then .error ⟨4 * model.faceCount⟩
      else .ok (ofElements model.elements).withBounds := by
  unfold build ofModel
  rw [Nat.mul_comm model.faceCount 4]
  by_cases h : 65536 < 4 * model.faceCount
  · simp [maxVertices, h]
  · simp [maxVertices, h]

/-- A mesh that is built consists of the blocks of the faces of its model, and no vertex of it lacks an
index. -/
theorem blocks_of_build {model : Model} {mesh : Mesh} (h : (build model).value = .ok mesh) :
    mesh.Blocks model.placedFaces ∧ 4 * model.placedFaces.length ≤ 65536 := by
  rw [build_value] at h
  split at h
  · cases h
  · rename_i hfew
    cases h
    obtain ⟨hvertices, hindices, hentries⟩ := blocks_ofElements model.elements
    exact ⟨⟨hvertices, hindices, hentries⟩, by rw [model.length_placedFaces]; omega⟩

/-- The points that a mesh draws. -/
def points (m : Mesh) : List (Vec3 Float32) := m.vertices.toList.map (·.position)

theorem bounds_of_build {model : Model} {mesh : Mesh} (h : (build model).value = .ok mesh) :
    mesh.bounds = .enclosing mesh.points := by
  rw [build_value] at h
  split at h
  · cases h
  · cases h
    rw [Bounds.enclosing, points, List.foldl_map]
    exact (Array.foldl_toList _).symm

/-! ## The data of a face -/

/-- The buffers hold the data of a face that is the `k`-th one. -/
structure ShowsFace (m : Mesh) (k : Nat) (p : PlacedFace) : Prop where
  /-- The entry tells where the face comes from, its texture and where its data start. -/
  entry : m.faces[k]? = some
    { element := p.index, dir := p.dir, texture := p.face.texture
      firstVertex := 4 * k, firstIndex := 6 * k }
  /-- The indices form two triangles over the four vertices. -/
  indices : ((m.indices.toList.drop (6 * k)).take 6).map UInt16.toNat =
    [4 * k, 4 * k + 1, 4 * k + 2, 4 * k, 4 * k + 2, 4 * k + 3]
  /-- The vertices are the corners of the side. -/
  positions : ((m.vertices.toList.drop (4 * k)).take 4).map Vertex.position =
    p.dir.corners.map
      (boxCorner p.element.fromCorner p.element.toCorner p.element.transform)
  /-- They show the corners of the rectangle of the face, or of the whole texture. -/
  uvs : ((m.vertices.toList.drop (4 * k)).take 4).map Vertex.uv =
    let r := p.face.uv.getD ⟨0, 0, 1, 1⟩
    [⟨r.u0, r.v0⟩, ⟨r.u0, r.v1⟩, ⟨r.u1, r.v1⟩, ⟨r.u1, r.v0⟩]
  /-- They share one normal. -/
  normals : ((m.vertices.toList.drop (4 * k)).take 4).map Vertex.normal =
    List.replicate 4 (p.element.transform.normal p.dir.normal)

/-- As long as its last vertex can be addressed, no index of a face is cut off. -/
theorem map_toNat_indexBlock {k : Nat} (h : 4 * k + 4 ≤ 65536) : (indexBlock k).map UInt16.toNat =
    [4 * k, 4 * k + 1, 4 * k + 2, 4 * k, 4 * k + 2, 4 * k + 3] := by
  have hbase : (UInt16.ofNat (4 * k)).toNat = 4 * k :=
    UInt16.toNat_ofNat_of_lt (show 4 * k < 65536 by omega)
  have hoffset (i : UInt16) (hi : i.toNat < 4) :
      (UInt16.ofNat (4 * k) + i).toNat = 4 * k + i.toNat := by
    rw [UInt16.toNat_add, hbase]
    exact Nat.mod_eq_of_lt (by omega)
  simp only [indexBlock, faceIndices, List.map_cons, List.map_nil, hbase]
  rw [hoffset 1 (by decide), hoffset 2 (by decide), hoffset 3 (by decide)]
  rfl

variable {m : Mesh} {faces : List PlacedFace}

theorem Blocks.showsFace (h : m.Blocks faces) (hcount : 4 * faces.length ≤ 65536) {k : Nat}
    {p : PlacedFace} (hk : faces[k]? = some p) : m.ShowsFace k p := by
  have hlt : k < faces.length := (List.getElem?_eq_some_iff.1 hk).1
  have hvertices : (m.vertices.toList.drop (4 * k)).take 4 = p.vertices := by
    rw [h.vertices]
    exact take_drop_blocks (fun q _ => q.length_vertices) hk
  refine ⟨?_, ?_, ?_, ?_, ?_⟩
  · rw [← Array.getElem?_toList, h.entries, List.getElem?_mapIdx, hk]
    rfl
  · rw [h.indices, take_drop_blocks (fun i _ => length_indexBlock i) (List.getElem?_range hlt)]
    exact map_toNat_indexBlock (by omega)
  · rw [hvertices, p.map_position_vertices]
  · rw [hvertices, p.map_uv_vertices]
    rfl
  · rw [hvertices, p.map_normal_vertices]

/-- Every index is one of a vertex. -/
theorem Blocks.toNat_lt (h : m.Blocks faces) (hcount : 4 * faces.length ≤ 65536) {i : UInt16}
    (hi : i ∈ m.indices) : i.toNat < 4 * faces.length := by
  rw [← Array.mem_toList_iff, h.indices, List.mem_flatMap] at hi
  obtain ⟨k, hk, hi⟩ := hi
  rw [List.mem_range] at hk
  have hmem : i.toNat ∈ (indexBlock k).map UInt16.toNat :=
    List.mem_map_of_mem hi
  rw [map_toNat_indexBlock (by omega)] at hmem
  simp only [List.mem_cons, List.not_mem_nil, or_false] at hmem
  omega

/-- The mesh of a model has room for 65536 vertices.  A model with more is refused, and it is told how
many it needs.  Any other model has a mesh, whose buffers are filled face by face: the present faces
are taken in the order of their elements and, within an element, of the sides, and the `k`-th of them
has the `k`-th entry, the four vertices from `4 * k` on and the six indices from `6 * k` on. -/
theorem build_fills_buffers (model : Model) :
    model.placedFaces.length = model.faceCount ∧
    (∀ p : PlacedFace, p ∈ model.placedFaces ↔
      model.elements[p.index]? = some p.element ∧ p.element.faces.get? p.dir = some p.face) ∧
    (model.placedFaces.Pairwise fun p q => p.index < q.index ∨
      p.index = q.index ∧
        [Direction.up, .down, .north, .south, .east, .west].idxOf p.dir <
          [Direction.up, .down, .north, .south, .east, .west].idxOf q.dir) ∧
    ((build model).value = .error ⟨4 * model.faceCount⟩ ↔ 65536 < 4 * model.faceCount) ∧
    (¬ 65536 < 4 * model.faceCount → ∃ mesh, (build model).value = .ok mesh ∧
      mesh.vertices.size = 4 * model.faceCount ∧
      mesh.indices.size = 6 * model.faceCount ∧
      mesh.faces.size = model.faceCount ∧
      (∀ i ∈ mesh.indices, i.toNat < 4 * model.faceCount) ∧
      ∀ k p, model.placedFaces[k]? = some p → mesh.ShowsFace k p) := by
  have hlength := model.length_placedFaces
  refine ⟨hlength, fun p => Model.mem_placedFaces_iff, model.pairwise_placedFaces, ?_, ?_⟩
  · rw [build_value]
    split
    · rename_i hmany
      exact iff_of_true rfl hmany
    · rename_i hfew
      exact iff_of_false (by simp) hfew
  · intro hfew
    have hcount : 4 * model.placedFaces.length ≤ 65536 := by omega
    have hblocks : (ofElements model.elements).withBounds.Blocks model.placedFaces := by
      obtain ⟨hvertices, hindices, hentries⟩ := blocks_ofElements model.elements
      exact ⟨hvertices, hindices, hentries⟩
    rw [build_value, if_neg hfew, ← hlength]
    exact ⟨_, rfl, hblocks.size_vertices, hblocks.size_indices, hblocks.size_faces,
      fun i hi => hblocks.toNat_lt hcount hi, fun k p hk => hblocks.showsFace hcount hk⟩

end Mesh
end ModelPreview
