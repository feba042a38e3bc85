import Mathlib
import ModelPreview.Mesh.Basic

/-!
# The vertices of the faces of a mesh

The faces of a mesh built from a model take four vertices each, one after another, so every vertex
belongs to exactly one face.  Moving texture coordinates into rectangles moves a vertex once for every
face that owns it, and therefore once.

Main definitions:

- `Mesh.owners`: the faces that own a vertex.
- `Mesh.Tiled`: the faces take four vertices each, without gaps.
- `Mesh.MovedInto`: a mesh in which every vertex has been moved once.

Main results:

- `Mesh.getElem?_remap`: a vertex is moved by its owners, one after another.
- `Mesh.tiled_of_build`: the mesh of a model is tiled.
- `Mesh.Tiled.owners_eq`: every vertex of such a mesh has one owner.
- `Mesh.Tiled.movedInto_remap`: with a rectangle for every texture, every vertex is moved once.
- `Mesh.pairwise_textures`: textures are listed in the order of their first appearance.
-/

namespace ModelPreview

/-- A face owns the four vertices from its first one on. -/
def MeshFace.Owns (f : MeshFace) (i : Nat) : Prop := f.firstVertex ≤ i ∧ i < f.firstVertex + 4

instance (f : MeshFace) (i : Nat) : Decidable (f.Owns i) := inferInstanceAs (Decidable (_ ∧ _))

/-- A vertex with its texture coordinates moved into a rectangle. -/
def Vertex.movedInto (v : Vertex) (r : UvRect) : Vertex := { v with uv := r.map v.uv }

/-- A vertex of a face with its texture coordinates moved into the rectangle of the texture. -/
def MeshFace.move (rect? : String → Option UvRect) (f : MeshFace) (v : Vertex) : Vertex :=
  match rect? f.texture with
  | none => v
  | some r => v.movedInto r

namespace Mesh

/-- The faces that own a vertex, in order. -/
def owners (m : Mesh) (i : Nat) : List MeshFace := m.faces.toList.filter fun f => f.Owns i

/-! ## Moving texture coordinates -/

theorem getElem?_foldl_modify (vs : Array Vertex) (move : Vertex → Vertex) (first n i : Nat) :
    ((List.range n).foldl (fun vs k => vs.modify (first + k) move) vs)[i]? =
      if first ≤ i ∧ i < first + n then vs[i]?.map move else vs[i]? := by
  induction n with
  | zero =>
    rw [if_neg (by omega)]
    rfl
  | succ n ih =>
    rw [List.range_succ, List.foldl_append, List.foldl_cons, List.foldl_nil, Array.getElem?_modify,
      ih]
    by_cases hi : first + n = i
    · rw [if_pos hi, if_neg (by omega), if_pos (by omega)]
    · rw [if_neg hi]
      congr 1
      simp only [eq_iff_iff]
      omega

theorem getElem?_remapFace (vs : Array Vertex) (f : MeshFace) (r : UvRect) (i : Nat) :
    (remapFace vs f.firstVertex r)[i]? =
      if f.Owns i then vs[i]?.map (·.movedInto r) else vs[i]? :=
  getElem?_foldl_modify vs (·.movedInto r) f.firstVertex 4 i

variable (rect? : String → Option UvRect)

/-- The vertices after those of one face have been moved. -/
def remapOwned (vs : Array Vertex) (f : MeshFace) : Array Vertex :=
  match rect? f.texture with
  | none => vs
  | some r => remapFace vs f.firstVertex r

theorem vertices_remap (m : Mesh) :
    (m.remap rect?).vertices = m.faces.toList.foldl (remapOwned rect?) m.vertices := by
  rw [Array.foldl_toList]
  rfl

theorem getElem?_remapOwned (vs : Array Vertex) (f : MeshFace) (i : Nat) :
    (remapOwned rect? vs f)[i]? =
      if f.Owns i then vs[i]?.map (f.move rect?) else vs[i]? := by
  unfold remapOwned MeshFace.move
  cases rect? f.texture with
  | none => simp
  | some r => exact getElem?_remapFace vs f r i

/-- A vertex is moved by the faces that own it, one after another. -/
theorem getElem?_remap (m : Mesh) (i : Nat) :
    (m.remap rect?).vertices[i]? =
      m.vertices[i]?.map fun v => (m.owners i).foldl (fun v f => f.move rect? v) v := by
  rw [vertices_remap, owners]
  generalize m.vertices = vs
  induction m.faces.toList generalizing vs with
  | nil => simp
  | cons f faces ih =>
    rw [List.foldl_cons, ih, getElem?_remapOwned]
    by_cases howns : f.Owns i
    · rw [if_pos howns, List.filter_cons_of_pos (by simpa using howns), Option.map_map]
      rfl
    · rw [if_neg howns, List.filter_cons_of_neg (by simpa using howns)]

theorem size_remap (m : Mesh) : (m.remap rect?).vertices.size = m.vertices.size := by
  have hnone (i : Nat) : (m.remap rect?).vertices[i]? = none ↔ m.vertices[i]? = none := by
    rw [getElem?_remap, Option.map_eq_none_iff]
  simp only [Array.getElem?_eq_none_iff] at hnone
  have hle := (hnone m.vertices.size).2 le_rfl
  have hge := (hnone (m.remap rect?).vertices.size).1 le_rfl
  omega

/-! ## Meshes of models -/

theorem length_faceVertices (e : Element) (t : Transform Float32) (d : Direction) (f : Face) :
    (faceVertices e t d f).length = 4 := by
  have hcorners : d.corners.length = 4 := by cases d <;> rfl
  have huvs : f.uvOrFull.corners.length = 4 := rfl
  simp [faceVertices, hcorners, huvs]

/-- The faces of a mesh take four vertices each, one after another and without gaps. -/
structure Tiled (m : Mesh) : Prop where
  size : m.vertices.size = 4 * m.faces.size
  firstVertex : ∀ k f, m.faces[k]? = some f → f.firstVertex = 4 * k

variable {m : Mesh}

theorem tiled_empty : empty.Tiled := ⟨rfl, nofun⟩

theorem Tiled.addFace (h : m.Tiled) (index : Nat) (e : Element) (t : Transform Float32)
    (face : Direction × Face) : (m.addFace index e t face).Tiled := by
  have hsize := h.size
  refine ⟨?_, ?_⟩
  · simp only [Mesh.addFace, Array.size_push]
    rw [← Array.length_toList, Array.toList_appendList, List.length_append, length_faceVertices,
      Array.length_toList]
    omega
  · intro k f hf
    rw [Mesh.addFace, Array.getElem?_push] at hf
    split at hf
    · rename_i hk
      cases hf
      rw [hk]
      exact hsize
    · exact h.firstVertex k f hf

theorem Tiled.addElement (h : m.Tiled) (e : Element) (index : Nat) :
    (m.addElement e index).Tiled := by
  unfold Mesh.addElement
  induction e.faces.toList generalizing m with
  | nil => exact h
  | cons face faces ih => exact ih (h.addFace index e e.transform face)

theorem tiled_ofElements (es : List Element) : (ofElements es).Tiled := by
  have hstart := tiled_empty
  unfold ofElements
  generalize empty = start at hstart ⊢
  induction es.zipIdx generalizing start with
  | nil => exact hstart
  | cons e rest ih => exact ih _ (hstart.addElement e.1 e.2)

theorem tiled_of_build {model : Model} (h : (build model).value = .ok m) : m.Tiled := by
  unfold build ofModel at h
  dsimp only at h
  split at h
  · cases h
  · rename_i mesh hmesh
    split at hmesh
    · cases hmesh
    · cases hmesh
      cases h
      exact ⟨(tiled_ofElements model.elements).size, (tiled_ofElements model.elements).firstVertex⟩

/-! ## Owners -/

namespace Tiled

/-- The vertices of a face are vertices of the mesh. -/
theorem firstVertex_add_le (h : m.Tiled) {f : MeshFace} (hf : f ∈ m.faces) :
    f.firstVertex + 4 ≤ m.vertices.size := by
  rcases Array.mem_iff_getElem?.1 hf with ⟨k, hk⟩
  have hfirst := h.firstVertex k f hk
  have hlt : k < m.faces.size := (Array.getElem?_eq_some_iff.1 hk).1
  have hsize := h.size
  omega

/-- A face owns the vertices whose number, divided by four, is its own. -/
theorem owns_iff (h : m.Tiled) {k : Nat} {f : MeshFace} (hf : m.faces[k]? = some f) (i : Nat) :
    f.Owns i ↔ i / 4 = k := by
  rw [MeshFace.Owns, h.firstVertex k f hf]
  omega

/-- Every vertex has exactly one owner. -/
theorem owners_eq (h : m.Tiled) {i : Nat} (hi : i < m.vertices.size) :
    ∃ f ∈ m.faces, m.owners i = [f] := by
  have hsize := h.size
  have hk : i / 4 < m.faces.toList.length := by
    rw [Array.length_toList]
    omega
  have howner (j : Nat) (hj : j < m.faces.toList.length) : m.faces.toList[j].Owns i ↔ i / 4 = j :=
    h.owns_iff (by simp) i
  refine ⟨m.faces.toList[i / 4], by simp, ?_⟩
  rw [owners, List.filter_eq_cons_iff]
  refine ⟨m.faces.toList.take (i / 4), m.faces.toList.drop (i / 4 + 1), ?_, ?_, ?_, ?_⟩
  · rw [List.getElem_cons_drop, List.take_append_drop]
  · -- Faces in front of the owner own smaller vertices, and those behind it larger ones.
    intro f hf
    rcases List.getElem_of_mem hf with ⟨j, hj, rfl⟩
    rw [List.length_take] at hj
    rw [List.getElem_take, decide_eq_true_iff, howner j (by omega)]
    omega
  · rw [decide_eq_true_iff, howner _ hk]
  · rw [List.filter_eq_nil_iff]
    intro f hf
    rcases List.getElem_of_mem hf with ⟨j, hj, rfl⟩
    rw [List.length_drop] at hj
    rw [List.getElem_drop, decide_eq_true_iff, howner _ (by omega)]
    omega

end Tiled

/-- A mesh with its texture coordinates moved into rectangles: every vertex has been moved once, into
the rectangle of the texture of the one face that owns it, and nothing else has changed. -/
structure MovedInto (m : Mesh) (rect? : String → Option UvRect) (moved : Mesh) : Prop where
  indices : moved.indices = m.indices
  faces : moved.faces = m.faces
  bounds : moved.bounds = m.bounds
  size : moved.vertices.size = m.vertices.size
  /-- The vertices of a face are vertices of the mesh. -/
  inside : ∀ f ∈ m.faces, f.firstVertex + 4 ≤ m.vertices.size
  vertex : ∀ i v, m.vertices[i]? = some v → ∃ f r, m.owners i = [f] ∧ rect? f.texture = some r ∧
    moved.vertices[i]? = some { v with uv := r.map v.uv }

/-- If there is a rectangle for the texture of each face, then every vertex is moved. -/
theorem Tiled.movedInto_remap (h : m.Tiled) {rect? : String → Option UvRect}
    (hrect : ∀ f ∈ m.faces, (rect? f.texture).isSome = true) :
    m.MovedInto rect? (m.remap rect?) where
  indices := rfl
  faces := rfl
  bounds := rfl
  size := size_remap rect? m
  inside _ hf := h.firstVertex_add_le hf
  vertex i v hv := by
    rcases h.owners_eq (Array.getElem?_eq_some_iff.1 hv).1 with ⟨f, hf, howners⟩
    rcases Option.isSome_iff_exists.1 (hrect f hf) with ⟨r, hr⟩
    refine ⟨f, r, howners, hr, ?_⟩
    rw [getElem?_remap, hv, howners, Option.map_some, List.foldl_cons, List.foldl_nil, MeshFace.move,
      hr]
    rfl

/-! ## Textures -/

theorem mem_textures {t : String} : t ∈ m.textures ↔ ∃ f ∈ m.faces, f.texture = t := by
  simp [textures, List.mem_eraseDups]

/-- A list without repetitions keeps the order in which its elements appear first. -/
theorem pairwise_idxOf_eraseDups (l : List String) :
    l.eraseDups.Pairwise fun t u => l.idxOf t < l.idxOf u := by
  induction l using List.reverseRecOn with
  | nil => exact .nil
  | append_singleton l last ih =>
    have hold : l.eraseDups.Pairwise fun t u => (l ++ [last]).idxOf t < (l ++ [last]).idxOf u := by
      apply ih.imp_of_mem
      intro t u ht hu hlt
      rw [List.mem_eraseDups] at ht hu
      rwa [List.idxOf_append_of_mem ht, List.idxOf_append_of_mem hu]
    rw [List.eraseDups_append]
    -- The last element is listed only if it is new, and then it stands behind all others.
    by_cases hmem : last ∈ l
    · simpa [List.removeAll, hmem] using hold
    · have hlast : ([last].removeAll l).eraseDups = [last] := by
        simp [List.removeAll, hmem, List.eraseDups_cons]
      rw [hlast, List.pairwise_append]
      refine ⟨hold, List.pairwise_singleton _ _, ?_⟩
      intro t ht u hu
      rw [List.mem_eraseDups] at ht
      rw [List.mem_singleton.1 hu, List.idxOf_append_of_mem ht, List.idxOf_append_of_notMem hmem]
      exact Nat.lt_add_right _ (List.idxOf_lt_length_of_mem ht)

/-- Textures are listed in the order in which they appear first. -/
theorem pairwise_textures (m : Mesh) : m.textures.Pairwise fun t u =>
    (m.faces.toList.map (·.texture)).idxOf t < (m.faces.toList.map (·.texture)).idxOf u :=
  pairwise_idxOf_eraseDups _

/-- No texture is listed twice. -/
theorem nodup_textures (m : Mesh) : m.textures.Nodup := by
  apply m.pairwise_textures.imp
  intro t u hlt htu
  rw [htu] at hlt
  exact absurd hlt (Nat.lt_irrefl _)

end Mesh
end ModelPreview
