import Mathlib
import ModelPreview.Proofs.Geometry.Agreement
import ModelPreview.Proofs.Mesh.Buffers

/-!
# The corners of elements

The two points that span an element can be any two opposite corners of it: only the smaller and the
larger coordinate along each axis count.  A vertex of an element that is not turned has coordinates of
these two points, although it is computed by the formula for all turns.  Both hold up to the sign of
zero.

Main definitions:

- `Vertex.Agree` and `Mesh.Agree`: the same numbers in vertices and in meshes.
- `Element.exchange` and `Model.exchange`: the spanning points exchange some of their coordinates.

Main results:

- `PlacedFace.agree_vertices_exchange`: the vertices of a face.
- `Mesh.corners_pass_through`: the vertices of elements that are not turned, and the meshes of models
  with exchanged coordinates.
-/

namespace ModelPreview

open Single

/-! ## The same numbers -/

/-- Two vertices have the same numbers, up to the signs of zeros in their positions. -/
structure Vertex.Agree (v w : Vertex) : Prop where
  position : v.position.Agree w.position
  uv : v.uv = w.uv
  normal : v.normal = w.normal

/-- Two meshes have the same numbers, up to the signs of zeros in the positions of their vertices. -/
structure Mesh.Agree (m n : Mesh) : Prop where
  vertices : List.Forall₂ Vertex.Agree m.vertices.toList n.vertices.toList
  indices : m.indices = n.indices
  faces : m.faces = n.faces
  bounds : (m.bounds == n.bounds) = true

/-! ## Exchanging coordinates -/

/-- The coordinates of `w` on the chosen axes, and those of `v` on the other ones. -/
def Vec3.choose (axes : Vec3 Bool) (v w : Vec3 α) : Vec3 α :=
  ⟨if axes.x then w.x else v.x, if axes.y then w.y else v.y, if axes.z then w.z else v.z⟩

/-- The element whose spanning points have exchanged their coordinates on some axes. -/
def Element.exchange (e : Element) (axes : Vec3 Bool) : Element :=
  { e with
    fromCorner := .choose axes e.fromCorner e.toCorner
    toCorner := .choose axes e.toCorner e.fromCorner }

/-- The model whose elements exchange coordinates, each of them on axes of its own. -/
def Model.exchange (m : Model) (axes : Nat → Vec3 Bool) : Model :=
  { m with elements := m.elements.mapIdx fun i e => e.exchange (axes i) }

/-- A face in the model with exchanged coordinates. -/
def PlacedFace.exchange (axes : Nat → Vec3 Bool) (p : PlacedFace) : PlacedFace :=
  { p with element := p.element.exchange (axes p.index) }

namespace Vec3

variable (axes : Vec3 Bool) (v w : Vec3 Float32)

theorem agree_least_choose : ((choose axes v w).least (choose axes w v)).Agree (v.least w) :=
  have hcoordinate := selects_least.agree_ite min_comm
  ⟨hcoordinate axes.x v.x w.x, hcoordinate axes.y v.y w.y, hcoordinate axes.z v.z w.z⟩

theorem agree_greatest_choose :
    ((choose axes v w).greatest (choose axes w v)).Agree (v.greatest w) :=
  have hcoordinate := selects_greatest.agree_ite max_comm
  ⟨hcoordinate axes.x v.x w.x, hcoordinate axes.y v.y w.y, hcoordinate axes.z v.z w.z⟩

end Vec3

/-- The spanning points can exchange coordinates without moving a corner. -/
theorem Element.agree_boxCorner_exchange (e : Element) (axes : Vec3 Bool) (t : Transform Float32)
    (i : Fin 8) :
    (boxCorner (e.exchange axes).fromCorner (e.exchange axes).toCorner t i).Agree
      (boxCorner e.fromCorner e.toCorner t i) :=
  t.agree_point (agree_cornerOf (Vec3.agree_least_choose ..) (Vec3.agree_greatest_choose ..) i)

/-- The vertices of a face have the same numbers after the exchange. -/
theorem PlacedFace.agree_vertices_exchange (axes : Nat → Vec3 Bool) (p : PlacedFace) :
    List.Forall₂ Vertex.Agree (p.exchange axes).vertices p.vertices := by
  unfold vertices faceVertices
  rw [List.forall₂_map_left_iff, List.forall₂_map_right_iff]
  refine List.forall₂_same.2 fun c _ => ?_
  exact ⟨p.element.agree_boxCorner_exchange _ _ _, rfl, rfl⟩

theorem Model.placedFaces_exchange (m : Model) (axes : Nat → Vec3 Bool) :
    (m.exchange axes).placedFaces = m.placedFaces.map (.exchange axes) := by
  have hzip : (m.elements.mapIdx fun i e => e.exchange (axes i)).zipIdx =
      m.elements.zipIdx.map fun e => (e.1.exchange (axes e.2), e.2) := by
    refine List.ext_getElem (by simp) fun k _ _ => ?_
    simp
  rw [placedFaces, placedFaces, exchange, hzip, List.flatMap_map, List.map_flatMap]
  refine List.flatMap_congr fun e _ => ?_
  rw [Element.placedFaces, Element.placedFaces, List.map_map]
  rfl

namespace Mesh

variable {model : Model} {axes : Nat → Vec3 Bool} {mesh mesh' : Mesh} {faces : List PlacedFace}

theorem Blocks.agree_vertices (h : mesh.Blocks faces)
    (h' : mesh'.Blocks (faces.map (.exchange axes))) :
    List.Forall₂ Vertex.Agree mesh'.vertices.toList mesh.vertices.toList := by
  rw [h.vertices, h'.vertices]
  clear h h'
  induction faces with
  | nil => exact .nil
  | cons p faces ih => exact List.rel_append (p.agree_vertices_exchange axes) ih

/-- The meshes with and without the exchange have the same numbers. -/
theorem agree_of_build (h : (build model).value = .ok mesh)
    (h' : (build (model.exchange axes)).value = .ok mesh') : mesh'.Agree mesh := by
  have hblocks := (blocks_of_build h).1
  have hblocks' := (blocks_of_build h').1
  rw [model.placedFaces_exchange] at hblocks'
  have hvertices := hblocks.agree_vertices hblocks'
  refine ⟨hvertices, ?_, ?_, ?_⟩
  · rw [← Array.toList_inj, hblocks.indices, hblocks'.indices, List.length_map]
  · rw [← Array.toList_inj, hblocks.entries, hblocks'.entries]
    refine List.ext_getElem (by simp) fun k _ _ => ?_
    simp only [List.getElem_mapIdx, List.getElem_map]
    rfl
  · rw [bounds_of_build h, bounds_of_build h']
    refine Bounds.beq_enclosing ?_
    rw [points, points, List.forall₂_map_left_iff, List.forall₂_map_right_iff]
    exact hvertices.imp fun _ _ hvertex => hvertex.position

theorem faceCount_exchange (model : Model) (axes : Nat → Vec3 Bool) :
    (model.exchange axes).faceCount = model.faceCount := by
  rw [← Model.length_placedFaces, model.placedFaces_exchange, List.length_map,
    Model.length_placedFaces]

end Mesh

/-! ## Elements that are not turned -/

/-- The corners of an element that is not turned have the coordinates of its spanning points. -/
theorem Element.beq_boxCorner {e : Element} (hrotation : e.rotation = none)
    (hfrom : e.fromCorner.isFinite = true) (hto : e.toCorner.isFinite = true) (i : Fin 8) :
    (boxCorner e.fromCorner e.toCorner e.transform i ==
      cornerOf (e.fromCorner.least e.toCorner) (e.fromCorner.greatest e.toCorner) i) = true := by
  have hcorner := isFinite_cornerOf hfrom hto i
  rw [boxCorner, transform, hrotation]
  exact (Transform.agree_identity_point hcorner).beq hcorner

namespace Mesh

variable {model : Model} {mesh : Mesh} {faces : List PlacedFace}

/-- An entry of a mesh is that of a placed face. -/
theorem Blocks.exists_entry (h : mesh.Blocks faces) {f : MeshFace} (hf : f ∈ mesh.faces) :
    ∃ k, ∃ p : PlacedFace, faces[k]? = some p ∧ f = p.entry k := by
  rw [← Array.mem_toList_iff, h.entries, List.mem_mapIdx] at hf
  obtain ⟨k, hk, rfl⟩ := hf
  exact ⟨k, faces[k], List.getElem?_eq_getElem hk, rfl⟩

theorem ShowsFace.passes_through {k : Nat} {p : PlacedFace} (h : mesh.ShowsFace k p)
    (hrotation : p.element.rotation = none) (hfrom : p.element.fromCorner.isFinite = true)
    (hto : p.element.toCorner.isFinite = true) :
    List.Forall₂ (fun v i => (v.normal == p.dir.normal) = true ∧
        (v.position == cornerOf (p.element.fromCorner.least p.element.toCorner)
          (p.element.fromCorner.greatest p.element.toCorner) i) = true)
      ((mesh.vertices.toList.drop (4 * k)).take 4) p.dir.corners := by
  have hpositions : List.Forall₂ (fun v i => v.position =
      boxCorner p.element.fromCorner p.element.toCorner p.element.transform i)
      ((mesh.vertices.toList.drop (4 * k)).take 4) p.dir.corners := by
    have heq : List.Forall₂ Eq _ _ := List.forall₂_eq_eq_eq ▸ h.positions
    rwa [List.forall₂_map_left_iff, List.forall₂_map_right_iff] at heq
  rw [List.forall₂_and_left]
  constructor
  · intro v hv
    have hnormal := List.mem_map_of_mem (f := Vertex.normal) hv
    rw [h.normals, Element.transform, hrotation] at hnormal
    rw [List.eq_of_mem_replicate hnormal]
    exact Transform.beq_identity_normal p.dir
  · refine hpositions.imp ?_
    intro v i hposition
    rw [hposition]
    exact Element.beq_boxCorner hrotation hfrom hto i

/-- The four vertices of a face of an element that is not turned have as coordinates, as numbers, the
smaller and the larger ones of the two spanning points, chosen by the numbers of the corners of the
side, and as normal that of the side.  If the elements of a model exchange any coordinates between
their spanning points, then the model is refused as before or has a mesh with the same numbers. -/
theorem corners_pass_through :
    (∀ (model : Model) (mesh : Mesh), (build model).value = .ok mesh → ∀ f ∈ mesh.faces,
      ∃ e, model.elements[f.element]? = some e ∧
        (e.rotation = none → e.fromCorner.isFinite = true → e.toCorner.isFinite = true →
          List.Forall₂ (fun v i => (v.normal == f.dir.normal) = true ∧
              (v.position == cornerOf (e.fromCorner.least e.toCorner)
                (e.fromCorner.greatest e.toCorner) i) = true)
            ((mesh.vertices.toList.drop f.firstVertex).take 4) f.dir.corners)) ∧
    ∀ (model : Model) (axes : Nat → Vec3 Bool),
      (∀ e, (build (model.exchange axes)).value = .error e ↔ (build model).value = .error e) ∧
      ∀ mesh, (build model).value = .ok mesh →
        ∃ mesh', (build (model.exchange axes)).value = .ok mesh' ∧ mesh'.Agree mesh := by
  constructor
  · intro model mesh hmesh f hf
    obtain ⟨hblocks, hcount⟩ := blocks_of_build hmesh
    obtain ⟨k, p, hk, rfl⟩ := hblocks.exists_entry hf
    have helement := (Model.mem_placedFaces_iff.1 (List.mem_of_getElem? hk)).1
    exact ⟨p.element, helement, (hblocks.showsFace hcount hk).passes_through⟩
  · intro model axes
    have hcount := faceCount_exchange model axes
    constructor
    · intro e
      rw [build_value, build_value, hcount]
      split
      · rfl
      · exact iff_of_false nofun nofun
    · intro mesh hmesh
      have hfew : ¬ 65536 < 4 * model.faceCount := by
        intro hmany
        rw [build_value, if_pos hmany] at hmesh
        cases hmesh
      have hvalue := build_value (model.exchange axes)
      rw [hcount, if_neg hfew] at hvalue
      exact ⟨_, hvalue, agree_of_build hmesh hvalue⟩

/-- A slab spanned by two points neither of which is the smaller one. -/
def mixedSlab : Model where
  elements := [{
    fromCorner := ⟨2, -0, 0.5⟩
    toCorner := ⟨-1, 3, 0⟩
    faces := { up := some ⟨"a", none⟩, east := some ⟨"b", none⟩ } }]

/-- The mesh of the slab. -/
def mixedSlabMesh : Mesh := (ofElements mixedSlab.elements).withBounds

theorem build_mixedSlab : (build mixedSlab).value = .ok mixedSlabMesh := rfl

/-- A side of the slab, and the mesh after exchanging the first and the last coordinate. -/
theorem mixedSlab_passes_through :
    (build mixedSlab).value = .ok mixedSlabMesh ∧ ⟨0, .east, "b", 4, 6⟩ ∈ mixedSlabMesh.faces ∧
    List.Forall₂ (fun v i => (v.normal == ⟨1, 0, 0⟩) = true ∧
        (v.position == cornerOf ⟨-1, -0, 0⟩ ⟨2, 3, 0.5⟩ i) = true)
      ((mixedSlabMesh.vertices.toList.drop 4).take 4) [7, 5, 1, 3] ∧
    ∃ mesh', (build (mixedSlab.exchange fun _ => ⟨true, false, true⟩)).value = .ok mesh' ∧
      mesh'.Agree mixedSlabMesh := by
  have hface : ⟨0, .east, "b", 4, 6⟩ ∈ mixedSlabMesh.faces := by decide +kernel
  obtain ⟨e, he, heast⟩ := corners_pass_through.1 _ _ build_mixedSlab _ hface
  obtain rfl := Option.some.inj he
  have hleast : (⟨2, -0, 0.5⟩ : Vec3 Float32).least ⟨-1, 3, 0⟩ = ⟨-1, -0, 0⟩ := by decide +kernel
  have hgreatest : (⟨2, -0, 0.5⟩ : Vec3 Float32).greatest ⟨-1, 3, 0⟩ = ⟨2, 3, 0.5⟩ := by
    decide +kernel
  have hcorners := heast rfl (by decide +kernel) (by decide +kernel)
  rw [hleast, hgreatest] at hcorners
  exact ⟨build_mixedSlab, hface, hcorners,
    (corners_pass_through.2 mixedSlab _).2 mixedSlabMesh build_mixedSlab⟩

end Mesh
end ModelPreview
