import Mathlib
import ModelPreview.Proofs.Render.Calls
import ModelPreview.Render.Recorder

/-!
# Renderings that fail

A rendering can fail while mesh and atlas are built, while they are uploaded and while they are
drawn.  In the first two cases the session is as it was before.  In the third one the new mesh and
atlas have replaced the old ones, the camera looks at them and the model is counted, although it was
not drawn.

Main definitions:

- `RenderSession.bound`: what a backend draws, by its calls.

Main results:

- `RenderSession.failed_render_keeps_picture_iff`: when a rendering that fails changes nothing, and
  what it changes otherwise.
- `RenderSession.failed_draw_replaces_picture`: a rendering that fails and changes the picture.
-/

namespace ModelPreview
namespace RenderSession

/-- The mesh and the atlas bound after some calls: those of the last successful upload, as long as
the backend has not been released. -/
def bound (calls : List BackendCall) : Option (Mesh × Atlas) :=
  calls.foldl (fun current call =>
    match call with
    | .upload mesh atlas (.ok _) => some (mesh, atlas)
    | .release => none
    | _ => current) none

variable {β τ : Type}

/-- What the user sees of a session: what is bound, the camera and the counts. -/
def picture (s : RenderSession (Traced β) τ) : Option (Mesh × Atlas) × Camera × SessionStats :=
  (bound s.backend.calls, s.camera, s.stats)

theorem bound_append (calls : List BackendCall) (c : BackendCall) :
    bound (calls ++ [c]) =
      match c with
      | .upload mesh atlas (.ok _) => some (mesh, atlas)
      | .release => none
      | _ => bound calls := by
  simp [bound]

variable [RenderBackend β] [TextureSource τ]

/-- A rendering that fails leaves the session ready, whether its calls are written down or not.  It
leaves what is bound, the camera and the counts as they were exactly if it did not fail in drawing.
If it did, the new mesh and atlas are bound, the camera looks at them and the model is counted. -/
theorem failed_render_keeps_picture_iff (s : RenderSession (Traced β) τ) (hready : s.state = .ready)
    (model : Model) (e : RenderError) (hfail : (s.render model).value.2 = .error e) :
    let s' := (s.render model).value.1
    (s.untraced.render model).value = (s'.untraced, .error e) ∧ s'.state = .ready ∧
    ∃ new, s'.backend.calls = s.backend.calls ++ new ∧
      (s'.picture = s.picture ↔ ∀ camera, .draw camera (.error e) ∉ new) ∧
      ∀ camera, .draw camera (.error e) ∈ new → ∃ mesh atlas,
        new = [.upload mesh atlas (.ok ()), .draw camera (.error e)] ∧
        camera = s.camera.frame mesh.bounds ∧
        s'.picture = (some (mesh, atlas), camera, { s.stats with
          renders := s.stats.renders + 1
          vertices := mesh.vertices.size
          indices := mesh.indices.size }) := by
  have huntraced := (untraced_render s model).symm
  have h := rendered_render hready model
  generalize (s.render model).value = r at h hfail huntraced
  obtain ⟨s', result⟩ := r
  cases hfail
  refine ⟨huntraced, ?_⟩
  cases h with
  | unbuilt textures =>
    refine ⟨rfl, [], (List.append_nil _).symm, ?_, nofun⟩
    simp [picture]
  | notUploaded textures inner mesh atlas =>
    refine ⟨rfl, _, rfl, ?_, ?_⟩
    · simp [picture, bound_append]
    · simp
  | notDrawn textures inner mesh atlas =>
    have hbound : bound (s.backend.calls ++ [.upload mesh atlas (.ok ()),
        .draw (s.camera.frame mesh.bounds) (.error e)]) = some (mesh, atlas) := by
      rw [← List.singleton_append, ← List.append_assoc, bound_append, bound_append]
    refine ⟨rfl, _, rfl, ?_, ?_⟩
    · -- The count alone tells the two pictures apart.
      have hcount : s.stats.renders + 1 ≠ s.stats.renders := Nat.succ_ne_self _
      refine iff_of_false ?_ ?_
      · intro heq
        exact hcount (congrArg (fun shown => shown.2.2.renders) heq)
      · intro hnone
        exact hnone (s.camera.frame mesh.bounds) (by simp)
    · intro camera hmem
      obtain rfl : camera = s.camera.frame mesh.bounds := by simpa using hmem
      refine ⟨mesh, atlas, rfl, rfl, ?_⟩
      simp [picture, hbound, uploaded]

/-! ## A draw that fails -/

/-- The top of a box. -/
def lid (side : Float32) : Model where
  elements := [{
    fromCorner := ⟨0, 0, 0⟩
    toCorner := ⟨side, side, side⟩
    faces := { up := some ⟨"t", none⟩ } }]

/-- A session that shows a small lid and then cannot draw any more. -/
def blindSession : RenderSession (Traced Recorder) ImageTable :=
  let s := (create (⟨{}, []⟩ : Traced Recorder) ∅ ⟨8, 8⟩).run [.setup, .render (lid 1)]
  { s with backend.inner.drawError := some (.surface .timeout) }

theorem failed_render_of_blindSession :
    blindSession.state = .ready ∧
    (blindSession.render (lid 2)).value.2 = .error (.surface .timeout) ∧
    ∃ camera mesh atlas,
      (blindSession.render (lid 2)).value.1.backend.calls = blindSession.backend.calls ++
        [.upload mesh atlas (.ok ()), .draw camera (.error (.surface .timeout))] := by
  have hfail : (blindSession.render (lid 2)).value.2 = .error (.surface .timeout) := rfl
  obtain ⟨-, -, new, hcalls, hsame, hnew⟩ :=
    failed_render_keeps_picture_iff blindSession rfl _ _ hfail
  have hdrawn : ¬ ∀ camera, .draw camera (.error (.surface .timeout)) ∉ new := by
    intro hnone
    have hstats := congrArg (fun shown => shown.2.2.renders) (hsame.2 hnone)
    exact absurd hstats (by decide +kernel)
  obtain ⟨camera, hmem⟩ := not_forall_not.1 hdrawn
  obtain ⟨mesh, atlas, rfl, -, -⟩ := hnew camera hmem
  exact ⟨rfl, hfail, camera, mesh, atlas, hcalls⟩

/-- A session that is ready and whose rendering fails binds another mesh, moves the camera and
counts the model. -/
theorem failed_draw_replaces_picture :
    blindSession.state = .ready ∧
    (blindSession.render (lid 2)).value.2 = .error (.surface .timeout) ∧
    ((bound blindSession.backend.calls).map fun shown => shown.1.bounds.y) = some ⟨1, 1⟩ ∧
    ((bound (blindSession.render (lid 2)).value.1.backend.calls).map fun shown =>
      shown.1.bounds.y) = some ⟨2, 2⟩ ∧
    (blindSession.render (lid 2)).value.1.camera ≠ blindSession.camera ∧
    blindSession.stats.renders = 1 ∧ (blindSession.render (lid 2)).value.1.stats.renders = 2 := by
  refine ⟨rfl, rfl, ?_, ?_, ?_, ?_, ?_⟩ <;> decide +kernel

end RenderSession
end ModelPreview
