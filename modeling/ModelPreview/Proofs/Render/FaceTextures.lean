import Mathlib
import ModelPreview.Proofs.Mesh.Ownership
import ModelPreview.Proofs.Render.Calls
import ModelPreview.Proofs.Texture.Packing
import ModelPreview.Render.Recorder

/-!
# The textures of the faces that are drawn

A session that renders a model uploads one mesh: the mesh of the model with every vertex moved into
the rectangle that the atlas has for the texture of its face.

Main results:

- `RenderSession.render_uploads_own_textures`: each face shows its own texture.
-/

namespace ModelPreview
namespace RenderSession

variable {β τ : Type} [RenderBackend β]

/-- Presenting a mesh uploads it once and nothing else. -/
theorem calls_present (s : RenderSession (Traced β) τ) (mesh : Mesh) (atlas : Atlas) :
    ∃ answer rest, (s.present mesh atlas).value.1.backend.calls =
        s.backend.calls ++ .upload mesh atlas answer :: rest ∧
      ∀ other atlas' answer', .upload other atlas' answer' ∉ rest := by
  rcases present_cases s mesh atlas with ⟨inner, e, h⟩ | ⟨inner, e, h⟩ | ⟨inner, n, h⟩
  · rw [h]
    exact ⟨_, _, rfl, by simp⟩
  · rw [h]
    exact ⟨_, _, rfl, by simp⟩
  · rw [h]
    exact ⟨_, _, rfl, by simp⟩

variable [TextureSource τ]

/-- Rendering a model whose mesh and atlas can be built presents the mesh with its texture
coordinates moved into the rectangles of the atlas. -/
theorem calls_render {s : RenderSession (Traced β) τ} (hready : s.state = .ready) {model : Model}
    {mesh : Mesh} {atlas : Atlas} (hmesh : (Mesh.build model).value = .ok mesh)
    (hatlas : ((Atlas.build mesh.textures).run s.textures).value.1 = .ok atlas) :
    ∃ answer rest, (s.render model).value.1.backend.calls =
        s.backend.calls ++ .upload (mesh.remap atlas.rect?) atlas answer :: rest ∧
      ∀ other atlas' answer', .upload other atlas' answer' ∉ rest := by
  rw [render_value_of_built hready hmesh hatlas]
  exact calls_present _ _ _

/-- If the mesh and the atlas of a model can be built, then a session that is ready uploads exactly
one mesh for it.  That is the mesh of the model with every vertex moved, once, into the rectangle
that the atlas has for the texture of the one face owning the vertex.  The textures packed are those
of the faces, each once and in the order of their first appearance, and the atlas has rectangles for
them and for nothing else. -/
theorem render_uploads_own_textures (s : RenderSession (Traced β) τ) (hready : s.state = .ready)
    (model : Model) (mesh : Mesh) (atlas : Atlas) (hmesh : (Mesh.build model).value = .ok mesh)
    (hatlas : ((Atlas.build mesh.textures).run s.textures).value.1 = .ok atlas) :
    (s.untraced.render model).value = untracedResult (s.render model).value ∧
    (∃ sent answer rest, (s.render model).value.1.backend.calls =
        s.backend.calls ++ .upload sent atlas answer :: rest ∧
      (∀ other atlas' answer', .upload other atlas' answer' ∉ rest) ∧
      mesh.MovedInto atlas.rect? sent) ∧
    (∀ t, t ∈ mesh.textures ↔ ∃ f ∈ mesh.faces, f.texture = t) ∧
    mesh.textures.Nodup ∧
    (mesh.textures.Pairwise fun t u => (mesh.faces.toList.map (·.texture)).idxOf t <
      (mesh.faces.toList.map (·.texture)).idxOf u) ∧
    ∀ t, (atlas.rect? t).isSome = true ↔ t ∈ mesh.textures := by
  have hrect := Atlas.isSome_rect?_of_build hatlas
  refine ⟨(untraced_render s model).symm, ?_, fun _ => Mesh.mem_textures, mesh.nodup_textures,
    mesh.pairwise_textures, hrect⟩
  rcases calls_render hready hmesh hatlas with ⟨answer, rest, hcalls, hnone⟩
  refine ⟨_, answer, rest, hcalls, hnone, (Mesh.tiled_of_build hmesh).movedInto_remap ?_⟩
  intro f hf
  exact (hrect f.texture).2 (Mesh.mem_textures.2 ⟨f, hf, rfl⟩)

/-- A box two of whose three faces share a texture. -/
def stripedBox : Model where
  elements := [{
    fromCorner := ⟨0, 0, 0⟩
    toCorner := ⟨1, 1, 1⟩
    faces := { up := some ⟨"a", none⟩, north := some ⟨"b", none⟩, west := some ⟨"a", none⟩ } }]

/-- A session that is ready and knows one of the two textures. -/
def stripedSession : RenderSession (Traced Recorder) ImageTable :=
  (create (⟨{}, []⟩ : Traced Recorder) (.ofList [("b", .solid 4 4 .white)]) ⟨8, 8⟩).run [.setup]

/-- The mesh of the box. -/
def stripedMesh : Mesh := (Mesh.ofElements stripedBox.elements).withBounds

theorem build_stripedBox : (Mesh.build stripedBox).value = .ok stripedMesh := rfl

/-- The three faces of the box show two textures, one of which is a placeholder. -/
theorem stripedBox_shows_own_textures :
    stripedSession.state = .ready ∧ (Mesh.build stripedBox).value = .ok stripedMesh ∧
    stripedMesh.textures = ["a", "b"] ∧ stripedMesh.vertices.size = 12 ∧
    ∃ atlas, ((Atlas.build stripedMesh.textures).run stripedSession.textures).value.1 = .ok atlas ∧
      ∃ sent answer rest, (stripedSession.render stripedBox).value.1.backend.calls =
          stripedSession.backend.calls ++ .upload sent atlas answer :: rest ∧
        stripedMesh.MovedInto atlas.rect? sent := by
  have htextures : stripedMesh.textures = ["a", "b"] := by decide +kernel
  have hsize : stripedMesh.vertices.size = 12 := by decide +kernel
  cases hatlas : ((Atlas.build stripedMesh.textures).run stripedSession.textures).value.1 with
  | error e =>
    rw [htextures] at hatlas
    cases hatlas
  | ok atlas =>
    obtain ⟨-, ⟨sent, answer, rest, hcalls, -, hmoved⟩, -⟩ := render_uploads_own_textures
      stripedSession rfl stripedBox stripedMesh atlas build_stripedBox hatlas
    exact ⟨rfl, build_stripedBox, htextures, hsize, atlas, rfl, sent, answer, rest, hcalls, hmoved⟩

end RenderSession
end ModelPreview
