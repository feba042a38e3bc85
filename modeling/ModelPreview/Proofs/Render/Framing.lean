import Mathlib
import ModelPreview.Proofs.Geometry.Bounds
import ModelPreview.Proofs.Mesh.Buffers
import ModelPreview.Proofs.Render.FaceTextures

/-!
# Framing a model

The box of a mesh is the hull of its vertices, so it is empty only if the model has no faces.  After an
upload the camera looks at this box, and only the empty box leaves the camera where it is.

Main definitions:

- `Camera.lookingAt`: a camera that has a box in view.

Main results:

- `Camera.forall_frame_eq_iff`: the boxes that leave every camera where it is.
- `RenderSession.camera_render`: the camera after an upload.
- `RenderSession.render_frames_hull`: the box around points, the box of a mesh and the camera.
-/

namespace ModelPreview

/-! ## The box of a mesh -/

namespace Mesh

variable {model : Model} {mesh : Mesh}

theorem points_eq_nil_iff (h : (build model).value = .ok mesh) :
    mesh.points = [] ↔ model.faceCount = 0 := by
  have hsize := (blocks_of_build h).1.size_vertices
  rw [model.length_placedFaces] at hsize
  rw [points, List.map_eq_nil_iff, ← List.length_eq_zero_iff, Array.length_toList, hsize]
  omega

end Mesh

/-! ## The camera -/

namespace Camera

/-- A camera that has a box in view. -/
def lookingAt (c : Camera) (b : Bounds) : Camera :=
  let distance := Scalar.greatest b.diagonal 1e-3 * 1.5
  { c with
    target := b.center
    distance := distance
    near := distance * 0.01
    far := distance * 20 }

theorem frame_eq (c : Camera) (b : Bounds) : c.frame b = if b.isEmpty then c else c.lookingAt b := rfl

/-- Only the empty box leaves every camera where it is, since any other box determines the distance. -/
theorem forall_frame_eq_iff {b : Bounds} : (∀ c : Camera, c.frame b = c) ↔ b.isEmpty = true := by
  constructor
  · intro h
    by_contra hempty
    have hdistance (d : Float32) : Scalar.greatest b.diagonal 1e-3 * 1.5 = d := by
      have hframe := h { initial 1 with distance := d }
      rw [frame_eq, if_neg hempty] at hframe
      exact congrArg distance hframe
    have hne : (0 : Float32) ≠ 1 := by decide +kernel
    exact hne ((hdistance 0).symm.trans (hdistance 1))
  · intro hempty c
    rw [frame_eq, if_pos hempty]

end Camera

namespace RenderSession

variable {β τ : Type} [RenderBackend β]

/-- A mesh that is uploaded is framed, whether it can be drawn or not. -/
theorem camera_present {s : RenderSession β τ} {mesh : Mesh} {atlas : Atlas}
    (h : ((RenderBackend.upload mesh atlas).run s.backend).value.1 = .ok ()) :
    (s.present mesh atlas).value.1.camera = s.camera.frame mesh.bounds := by
  rcases hupload : ((RenderBackend.upload mesh atlas).run s.backend).value with ⟨answer, backend⟩
  rw [hupload] at h
  cases h
  rcases hdraw : ((RenderBackend.draw (s.camera.frame mesh.bounds)).run backend).value with
    ⟨answer, drawn⟩
  cases answer with
  | error e => simp [present, draw, uploaded, hupload, hdraw]
  | ok n => simp [present, draw, uploaded, hupload, hdraw]

variable [TextureSource τ] {s : RenderSession β τ} {model : Model} {mesh : Mesh} {atlas : Atlas}

/-- A model whose mesh is uploaded is framed. -/
theorem camera_render (hready : s.state = .ready) (hmesh : (Mesh.build model).value = .ok mesh)
    (hatlas : ((Atlas.build mesh.textures).run s.textures).value.1 = .ok atlas)
    (hupload : ((RenderBackend.upload (mesh.remap atlas.rect?) atlas).run s.backend).value.1 =
      .ok ()) :
    (s.render model).value.1.camera = s.camera.frame mesh.bounds := by
  rw [render_value_of_built hready hmesh hatlas]
  exact camera_present hupload

/-- The box around points without NaN coordinates contains all of them and ends at some of them, it
does not depend on their order, and it is empty exactly if there are no points.  So the box of a mesh
whose vertices have no NaN coordinates is empty exactly if the model has no faces.  Exactly then it
leaves every camera where it is, and after an upload of any other mesh the camera looks at its box. -/
theorem render_frames_hull :
    (∀ points : List (Vec3 Float32), (∀ p ∈ points, p.IsNumber) →
      (∀ p ∈ points, (Bounds.enclosing points).Contains p) ∧
      (points ≠ [] → (Bounds.enclosing points).EndsAt points) ∧
      (∀ points', points.Perm points' →
        (Bounds.enclosing points == Bounds.enclosing points') = true) ∧
      ((Bounds.enclosing points).isEmpty = true ↔ points = [])) ∧
    ∀ (model : Model) (mesh : Mesh), (Mesh.build model).value = .ok mesh →
      (∀ v ∈ mesh.vertices, v.position.IsNumber) →
      mesh.bounds = .enclosing (mesh.vertices.toList.map (·.position)) ∧
      (mesh.bounds.isEmpty = true ↔ model.faceCount = 0) ∧
      ((∀ c : Camera, c.frame mesh.bounds = c) ↔ model.faceCount = 0) ∧
      ∀ {β τ : Type} [RenderBackend β] [TextureSource τ] (s : RenderSession β τ) (atlas : Atlas),
        s.state = .ready →
        ((Atlas.build mesh.textures).run s.textures).value.1 = .ok atlas →
        ((RenderBackend.upload (mesh.remap atlas.rect?) atlas).run s.backend).value.1 = .ok () →
        (s.render model).value.1.camera =
          if model.faceCount = 0 then s.camera else s.camera.lookingAt mesh.bounds := by
  constructor
  · intro points hnumbers
    have hhull := Bounds.isHull_enclosing hnumbers
    refine ⟨fun p hp => hhull.contains hp, hhull.endsAt, ?_, hhull.isEmpty_iff hnumbers⟩
    intro points' hperm
    have hnumbers' : ∀ p ∈ points', p.IsNumber := fun p hp => hnumbers p (hperm.mem_iff.2 hp)
    exact hhull.beq hnumbers (Bounds.isHull_enclosing hnumbers') hperm
  · intro model mesh hmesh hnumbers
    have hbounds := Mesh.bounds_of_build hmesh
    have hpoints : ∀ p ∈ mesh.points, p.IsNumber :=
      List.forall_mem_map.2 fun v hv => hnumbers v (Array.mem_toList_iff.1 hv)
    have hempty : mesh.bounds.isEmpty = true ↔ model.faceCount = 0 := by
      rw [hbounds, (Bounds.isHull_enclosing hpoints).isEmpty_iff hpoints,
        Mesh.points_eq_nil_iff hmesh]
    refine ⟨hbounds, hempty, Camera.forall_frame_eq_iff.trans hempty, ?_⟩
    intro β τ _ _ s atlas hready hatlas hupload
    rw [camera_render hready hmesh hatlas hupload, Camera.frame_eq]
    exact if_congr hempty rfl rfl

/-- Two points with infinite coordinates and both zeros. -/
def cornerPoints : List (Vec3 Float32) :=
  [⟨-Single.infinity, 0, 3⟩, ⟨1, -0, Single.infinity⟩]

/-- The box around two points, and the camera after the upload of a box with three faces. -/
theorem stripedBox_is_framed :
    (∀ p ∈ cornerPoints, p.IsNumber) ∧
    (Bounds.enclosing cornerPoints).EndsAt cornerPoints ∧
    (Bounds.enclosing cornerPoints == Bounds.enclosing cornerPoints.reverse) = true ∧
    stripedBox.faceCount = 3 ∧ (Mesh.build stripedBox).value = .ok stripedMesh ∧
    (∀ v ∈ stripedMesh.vertices, v.position.IsNumber) ∧ stripedSession.state = .ready ∧
    ∃ atlas, ((Atlas.build stripedMesh.textures).run stripedSession.textures).value.1 = .ok atlas ∧
      ((RenderBackend.upload (stripedMesh.remap atlas.rect?) atlas).run
        stripedSession.backend).value.1 = .ok () ∧
      (stripedSession.render stripedBox).value.1.camera =
        stripedSession.camera.lookingAt stripedMesh.bounds := by
  have hcorners : ∀ p ∈ cornerPoints, p.IsNumber := by decide +kernel
  have hcount : stripedBox.faceCount = 3 := by decide +kernel
  have hpositions : ∀ v ∈ stripedMesh.vertices, v.position.IsNumber := by decide +kernel
  have htextures : stripedMesh.textures = ["a", "b"] := by decide +kernel
  have hpoints := render_frames_hull.1 cornerPoints hcorners
  refine ⟨hcorners, hpoints.2.1 (List.cons_ne_nil _ _),
    hpoints.2.2.1 _ (List.reverse_perm _).symm, hcount, build_stripedBox, hpositions, rfl, ?_⟩
  cases hatlas : ((Atlas.build stripedMesh.textures).run stripedSession.textures).value.1 with
  | error e =>
    rw [htextures] at hatlas
    cases hatlas
  | ok atlas =>
    have hcamera := (render_frames_hull.2 stripedBox stripedMesh build_stripedBox hpositions).2.2.2
      stripedSession atlas rfl hatlas rfl
    rw [if_neg (by rw [hcount]; decide)] at hcamera
    exact ⟨atlas, rfl, rfl, hcamera⟩

end RenderSession
end ModelPreview
