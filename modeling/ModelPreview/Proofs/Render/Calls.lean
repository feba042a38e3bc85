import Mathlib
import ModelPreview.Render.Session

/-!
# The calls of a render session

Any backend can be wrapped so that its calls are written down together with their answers.  Wrapping
changes nothing else, so the calls of a session with the wrapped backend are those of the session with
the backend itself.  What one operation of a session can do is said once, case by case.

Main definitions:

- `Traced`: a backend with the calls made so far.
- `RenderSession.apply` and `RenderSession.run`: operations and their runs.
- `RenderSession.Rendered` and `RenderSession.Moves`: what rendering and what any operation can do.

Main results:

- `RenderSession.untraced_run`: writing calls down changes nothing.
- `RenderSession.rendered_render` and `RenderSession.movesTo_apply`: the cases are all there are.
-/

namespace ModelPreview

/-! ## Backends that write their calls down -/

/-- One call of a backend with its answer. -/
inductive BackendCall where
  /-- Get ready to draw. -/
  | setup (size : Extent) (answer : Except RenderError Unit)
  /-- Draw in another size. -/
  | resize (size : Extent)
  /-- Replace what is drawn. -/
  | upload (mesh : Mesh) (atlas : Atlas) (answer : Except RenderError Unit)
  /-- Draw. -/
  | draw (camera : Camera) (answer : Except RenderError Nat)
  /-- Give back everything. -/
  | release

/-- A backend with the calls made so far, oldest first. -/
structure Traced (β : Type) where
  /-- The backend. -/
  inner : β
  /-- Its calls. -/
  calls : List BackendCall := []

namespace Traced

variable {α β : Type}

/-- Make a call and write it down. -/
def call (op : StateT β Logged α) (note : α → BackendCall) : StateT (Traced β) Logged α := fun t => do
  let (answer, inner) ← op.run t.inner
  return (answer, ⟨inner, t.calls ++ [note answer]⟩)

instance [RenderBackend β] : RenderBackend (Traced β) where
  setup size := call (RenderBackend.setup size) (.setup size)
  resize size := call (RenderBackend.resize size) fun _ => .resize size
  upload mesh atlas := call (RenderBackend.upload mesh atlas) (.upload mesh atlas)
  draw camera := call (RenderBackend.draw camera) (.draw camera)
  release := call RenderBackend.release fun _ => .release

variable [RenderBackend β] (t : Traced β)

theorem value_setup (size : Extent) :
    ((RenderBackend.setup size).run t).value =
      (((RenderBackend.setup size).run t.inner).value.1,
        ⟨((RenderBackend.setup size).run t.inner).value.2,
          t.calls ++ [.setup size ((RenderBackend.setup size).run t.inner).value.1]⟩) := rfl

theorem value_resize (size : Extent) :
    ((RenderBackend.resize size).run t).value =
      ((), ⟨((RenderBackend.resize size).run t.inner).value.2, t.calls ++ [.resize size]⟩) := rfl

theorem value_upload (mesh : Mesh) (atlas : Atlas) :
    ((RenderBackend.upload mesh atlas).run t).value =
      (((RenderBackend.upload mesh atlas).run t.inner).value.1,
        ⟨((RenderBackend.upload mesh atlas).run t.inner).value.2,
          t.calls ++
            [.upload mesh atlas ((RenderBackend.upload mesh atlas).run t.inner).value.1]⟩) := rfl

theorem value_draw (camera : Camera) :
    ((RenderBackend.draw camera).run t).value =
      (((RenderBackend.draw camera).run t.inner).value.1,
        ⟨((RenderBackend.draw camera).run t.inner).value.2,
          t.calls ++ [.draw camera ((RenderBackend.draw camera).run t.inner).value.1]⟩) := rfl

theorem value_release :
    (RenderBackend.release.run t).value =
      ((), ⟨(RenderBackend.release.run t.inner).value.2, t.calls ++ [.release]⟩) := rfl

end Traced

/-! ## Operations -/

/-- An operation of a render session. -/
inductive SessionOp where
  /-- Set the session up. -/
  | setup
  /-- Replace the model and draw it. -/
  | render (model : Model)
  /-- Do what a message asks for. -/
  | handle (m : RenderMessage)
  /-- Draw the same model again. -/
  | redraw
  /-- Change the size of the picture. -/
  | resize (size : Extent)
  /-- Turn the camera. -/
  | orbit (yaw pitch : Float32)
  /-- Move the camera. -/
  | dolly (amount : Float32)
  /-- End the session. -/
  | dispose

/-- Whether an operation draws: only a session that is set up does it. -/
def SessionOp.Draws : SessionOp → Prop
  | render _ | handle _ | redraw => True
  | _ => False

/-- Whether an operation only changes how the model is seen. -/
def SessionOp.Adjusts : SessionOp → Prop
  | resize _ | orbit _ _ | dolly _ => True
  | _ => False

namespace RenderSession

variable {β τ : Type}

section Operations

variable [RenderBackend β] [TextureSource τ]

/-- One operation; those that cannot fail return nothing. -/
def apply (s : RenderSession β τ) :
    SessionOp → Logged (RenderSession β τ × Except RenderError Unit)
  | .setup => s.setup
  | .render model => s.render model
  | .handle m => s.handle m
  | .redraw => s.redraw
  | .resize size => do return (← s.resize size, .ok ())
  | .orbit yaw pitch => return (s.orbit yaw pitch, .ok ())
  | .dolly amount => return (s.dolly amount, .ok ())
  | .dispose => do return (← s.dispose, .ok ())

/-- The session after a list of operations. -/
def run (s : RenderSession β τ) (ops : List SessionOp) : RenderSession β τ :=
  ops.foldl (fun s op => (s.apply op).value.1) s

theorem render_value_of_refusal {s : RenderSession β τ} {e : RenderError}
    (h : s.refusal? = some e) (model : Model) : (s.render model).value = (s, .error e) := by
  simp [render, h]

/-- A result with the session being ready again. -/
def returned {α : Type} (r : RenderSession β τ × α) : RenderSession β τ × α :=
  ({ r.1 with state := .ready }, r.2)

/-- Rendering is uploading and drawing; only the state tells that it goes on. -/
theorem render_value {s : RenderSession β τ} (h : s.refusal? = none) (model : Model) :
    (s.render model).value = returned (uploadAndDraw { s with state := .rendering } model).value := by
  unfold render
  simp only [h, Logged.value_bind]
  generalize (uploadAndDraw { s with state := .rendering } model).value = r
  obtain ⟨s', result⟩ := r
  cases result with
  | error e => rfl
  | ok u => rfl

/-- A session that is ready presents the mesh of a model with its texture coordinates moved into the
rectangles of the atlas. -/
theorem render_value_of_built {s : RenderSession β τ} (hready : s.state = .ready) {model : Model}
    {mesh : Mesh} {atlas : Atlas} (hmesh : (Mesh.build model).value = .ok mesh)
    (hatlas : ((Atlas.build mesh.textures).run s.textures).value.1 = .ok atlas) :
    (s.render model).value = returned (present
      { s with
        state := .rendering
        textures := ((Atlas.build mesh.textures).run s.textures).value.2 }
      (mesh.remap atlas.rect?) atlas).value := by
  have hrefusal : s.refusal? = none := by simp [refusal?, hready]
  rw [render_value hrefusal]
  simp [uploadAndDraw, hmesh, hatlas]

end Operations

/-! ## Writing calls down changes nothing -/

/-- The session without the calls written down. -/
def untraced (s : RenderSession (Traced β) τ) : RenderSession β τ :=
  ⟨s.backend.inner, s.textures, s.state, s.camera, s.size, s.stats⟩

/-- A result without the calls written down. -/
def untracedResult {α : Type} (r : RenderSession (Traced β) τ × α) : RenderSession β τ × α :=
  (r.1.untraced, r.2)

section Untraced

variable [RenderBackend β] (s : RenderSession (Traced β) τ)

theorem untraced_setup : untracedResult s.setup.value = s.untraced.setup.value := by
  unfold setup
  cases hstate : s.state with
  | disposed => simp [untraced, untracedResult, hstate]
  | ready => simp [untraced, untracedResult, hstate]
  | rendering => simp [untraced, untracedResult, hstate]
  | uninitialized =>
    cases hanswer : ((RenderBackend.setup s.size).run s.backend.inner).value.1 with
    | error e => simp [untraced, untracedResult, hstate, Traced.value_setup, hanswer]
    | ok u => simp [untraced, untracedResult, hstate, Traced.value_setup, hanswer]

theorem untraced_draw : untracedResult s.draw.value = s.untraced.draw.value := by
  unfold draw
  cases hanswer : ((RenderBackend.draw s.camera).run s.backend.inner).value.1 with
  | error e => simp [untraced, untracedResult, Traced.value_draw, hanswer]
  | ok n => simp [untraced, untracedResult, Traced.value_draw, hanswer]

theorem untraced_redraw : untracedResult s.redraw.value = s.untraced.redraw.value := by
  have hsame : s.untraced.refusal? = s.refusal? := rfl
  unfold redraw
  rw [hsame]
  cases s.refusal? with
  | some e => rfl
  | none => exact untraced_draw s

theorem untraced_present (mesh : Mesh) (atlas : Atlas) :
    untracedResult (s.present mesh atlas).value = (s.untraced.present mesh atlas).value := by
  unfold present
  cases hanswer : ((RenderBackend.upload mesh atlas).run s.backend.inner).value.1 with
  | error e => simp [untraced, untracedResult, Traced.value_upload, hanswer]
  | ok u =>
    simp only [untraced, Logged.value_bind, Traced.value_upload, hanswer]
    exact untraced_draw _

theorem untraced_resize (size : Extent) :
    (s.resize size).value.untraced = (s.untraced.resize size).value := by
  unfold resize
  by_cases hskip : size.isEmpty = true ∨ s.state = .disposed
  · simp [untraced, hskip]
  · by_cases hstate : s.state = .uninitialized
    · simp_all [untraced]
    · simp_all [untraced, Traced.value_resize]

theorem untraced_dispose : s.dispose.value.untraced = s.untraced.dispose.value := by
  unfold dispose
  cases hstate : s.state with
  | disposed => simp [untraced, hstate]
  | uninitialized => simp [untraced, hstate]
  | ready => simp [untraced, hstate, Traced.value_release]
  | rendering => simp [untraced, hstate, Traced.value_release]

variable [TextureSource τ]

theorem untraced_uploadAndDraw (model : Model) :
    untracedResult (s.uploadAndDraw model).value = (s.untraced.uploadAndDraw model).value := by
  unfold uploadAndDraw
  simp only [Logged.value_bind]
  cases (Mesh.build model).value with
  | error e => rfl
  | ok mesh =>
    simp only [Logged.value_bind, untraced]
    cases ((Atlas.build mesh.textures).run s.textures).value.1 with
    | error e => rfl
    | ok atlas => exact untraced_present _ _ _

theorem untraced_render (model : Model) :
    untracedResult (s.render model).value = (s.untraced.render model).value := by
  have hsame : s.untraced.refusal? = s.refusal? := rfl
  cases hrefusal : s.refusal? with
  | some e =>
    rw [render_value_of_refusal hrefusal, render_value_of_refusal (hsame.trans hrefusal)]
    rfl
  | none =>
    have hinner := untraced_uploadAndDraw { s with state := .rendering } model
    rw [render_value hrefusal, render_value (hsame.trans hrefusal)]
    exact congrArg returned hinner

theorem untraced_apply (op : SessionOp) :
    untracedResult (s.apply op).value = (s.untraced.apply op).value := by
  cases op with
  | setup => exact untraced_setup s
  | render model => exact untraced_render s model
  | handle m =>
    cases m with
    | renderModel model => exact untraced_render s model
  | redraw => exact untraced_redraw s
  | resize size => exact Prod.ext (untraced_resize s size) rfl
  | orbit yaw pitch => rfl
  | dolly amount => rfl
  | dispose => exact Prod.ext (untraced_dispose s) rfl

/-- A run that writes its calls down is the run without that. -/
theorem untraced_run (ops : List SessionOp) : (s.run ops).untraced = s.untraced.run ops := by
  induction ops generalizing s with
  | nil => rfl
  | cons op ops ih =>
    have hstep := congrArg Prod.fst (untraced_apply s op)
    exact (ih (s.apply op).value.1).trans (congrArg (run · ops) hstep)

end Untraced

/-! ## What operations can do -/

/-- What rendering can do to a session that is ready: the mesh or the atlas cannot be built, the
upload fails, the draw fails after the upload, or all goes well. -/
inductive Rendered (s : RenderSession (Traced β) τ) :
    RenderSession (Traced β) τ × Except RenderError Unit → Prop where
  | unbuilt (textures : τ) (e : RenderError) :
    Rendered s ({ s with textures := textures, state := .ready }, .error e)
  | notUploaded (textures : τ) (inner : β) (mesh : Mesh) (atlas : Atlas) (e : RenderError) :
    Rendered s ({ s with
      textures := textures
      backend := ⟨inner, s.backend.calls ++ [.upload mesh atlas (.error e)]⟩
      state := .ready }, .error e)
  | notDrawn (textures : τ) (inner : β) (mesh : Mesh) (atlas : Atlas) (e : RenderError) :
    Rendered s ({ s.uploaded mesh with
      textures := textures
      backend := ⟨inner, s.backend.calls ++
        [.upload mesh atlas (.ok ()), .draw (s.camera.frame mesh.bounds) (.error e)]⟩
      state := .ready }, .error e)
  | drawn (textures : τ) (inner : β) (mesh : Mesh) (atlas : Atlas) (n : Nat) :
    Rendered s ({ s.uploaded mesh with
      textures := textures
      backend := ⟨inner, s.backend.calls ++
        [.upload mesh atlas (.ok ()), .draw (s.camera.frame mesh.bounds) (.ok n)]⟩
      state := .ready
      stats := { (s.uploaded mesh).stats with drawCalls := s.stats.drawCalls + n } }, .ok ())

/-- What an operation can do between two states: the calls it makes and what it returns. -/
inductive Moves : SessionOp → SessionState → List BackendCall → SessionState →
    Except RenderError Unit → Prop where
  | setupFailed (size : Extent) (e : RenderError) :
    Moves .setup .uninitialized [.setup size (.error e)] .uninitialized (.error e)
  | setupDone (size : Extent) : Moves .setup .uninitialized [.setup size (.ok ())] .ready (.ok ())
  | setupAgain : Moves .setup .ready [] .ready (.ok ())
  | setupEnded : Moves .setup .disposed [] .disposed (.error .disposed)
  | notReady {op : SessionOp} (h : op.Draws) :
    Moves op .uninitialized [] .uninitialized (.error .notReady)
  | ended {op : SessionOp} (h : op.Draws) : Moves op .disposed [] .disposed (.error .disposed)
  | unbuilt {op : SessionOp} (h : op.Draws) (e : RenderError) : Moves op .ready [] .ready (.error e)
  | notUploaded {op : SessionOp} (h : op.Draws) (mesh : Mesh) (atlas : Atlas) (e : RenderError) :
    Moves op .ready [.upload mesh atlas (.error e)] .ready (.error e)
  | presented {op : SessionOp} (h : op.Draws) (mesh : Mesh) (atlas : Atlas) (camera : Camera)
      (answer : Except RenderError Nat) :
    Moves op .ready [.upload mesh atlas (.ok ()), .draw camera answer] .ready
      (answer.map fun _ => ())
  | redrawn (camera : Camera) (answer : Except RenderError Nat) :
    Moves .redraw .ready [.draw camera answer] .ready (answer.map fun _ => ())
  | resized (size : Extent) : Moves (.resize size) .ready [.resize size] .ready (.ok ())
  | adjusted (op : SessionOp) (h : op.Adjusts) (state : SessionState) :
    Moves op state [] state (.ok ())
  | released : Moves .dispose .ready [.release] .disposed (.ok ())
  | endedUnused : Moves .dispose .uninitialized [] .disposed (.ok ())
  | endedAgain : Moves .dispose .disposed [] .disposed (.ok ())

variable {s : RenderSession (Traced β) τ}

/-- A result comes from a session by an operation that makes some calls. -/
def MovesTo (s : RenderSession (Traced β) τ) (op : SessionOp)
    (r : RenderSession (Traced β) τ × Except RenderError Unit) : Prop :=
  ∃ new, r.1.backend.calls = s.backend.calls ++ new ∧ Moves op s.state new r.1.state r.2

/-- An operation that leaves the backend alone makes no calls. -/
theorem movesTo_of_backend_eq {op : SessionOp}
    {r : RenderSession (Traced β) τ × Except RenderError Unit} (hbackend : r.1.backend = s.backend)
    (hmoves : Moves op s.state [] r.1.state r.2) : s.MovesTo op r :=
  ⟨[], by rw [hbackend, List.append_nil], hmoves⟩

theorem Rendered.movesTo {r : RenderSession (Traced β) τ × Except RenderError Unit}
    (h : s.Rendered r) (hready : s.state = .ready) {op : SessionOp} (hop : op.Draws) :
    s.MovesTo op r := by
  unfold MovesTo
  rw [hready]
  cases h with
  | unbuilt textures e => exact ⟨[], (List.append_nil _).symm, .unbuilt hop e⟩
  | notUploaded textures inner mesh atlas e => exact ⟨_, rfl, .notUploaded hop mesh atlas e⟩
  | notDrawn textures inner mesh atlas e => exact ⟨_, rfl, .presented hop mesh atlas _ (.error e)⟩
  | drawn textures inner mesh atlas n => exact ⟨_, rfl, .presented hop mesh atlas _ (.ok n)⟩

/-- A session that is not ready refuses to draw. -/
theorem movesTo_of_refusal {e : RenderError} (hrefusal : s.refusal? = some e)
    (hstate : s.state ≠ .rendering) {op : SessionOp} (hop : op.Draws) :
    s.MovesTo op (s, .error e) := by
  refine movesTo_of_backend_eq rfl ?_
  cases hs : s.state with
  | ready => simp [refusal?, hs] at hrefusal
  | rendering => exact absurd hs hstate
  | disposed =>
    obtain rfl : RenderError.disposed = e := by simpa [refusal?, hs] using hrefusal
    simpa [hs] using .ended hop
  | uninitialized =>
    obtain rfl : RenderError.notReady = e := by simpa [refusal?, hs] using hrefusal
    simpa [hs] using .notReady hop

theorem state_eq_ready (hrefusal : s.refusal? = none) : s.state = .ready := by
  cases hs : s.state with
  | ready => rfl
  | disposed => simp [refusal?, hs] at hrefusal
  | uninitialized => simp [refusal?, hs] at hrefusal
  | rendering => simp [refusal?, hs] at hrefusal

variable [RenderBackend β]

theorem movesTo_setup (hstate : s.state ≠ .rendering) : s.MovesTo .setup s.setup.value := by
  unfold setup
  cases hs : s.state with
  | disposed => exact movesTo_of_backend_eq rfl (by simpa [hs] using .setupEnded)
  | ready => exact movesTo_of_backend_eq rfl (by simpa [hs] using .setupAgain)
  | rendering => exact absurd hs hstate
  | uninitialized =>
    unfold MovesTo
    simp only [Logged.value_bind, Traced.value_setup, hs]
    cases ((RenderBackend.setup s.size).run s.backend.inner).value.1 with
    | error e => exact ⟨_, rfl, .setupFailed s.size e⟩
    | ok u => exact ⟨_, rfl, .setupDone s.size⟩

theorem movesTo_redraw (hstate : s.state ≠ .rendering) : s.MovesTo .redraw s.redraw.value := by
  unfold redraw
  cases hrefusal : s.refusal? with
  | some e => exact movesTo_of_refusal hrefusal hstate trivial
  | none =>
    unfold MovesTo
    simp only [draw, Logged.value_bind, Traced.value_draw, state_eq_ready hrefusal]
    cases ((RenderBackend.draw s.camera).run s.backend.inner).value.1 with
    | error e => exact ⟨_, rfl, by simpa [state_eq_ready hrefusal] using .redrawn s.camera (.error e)⟩
    | ok n => exact ⟨_, rfl, by simpa [state_eq_ready hrefusal] using .redrawn s.camera (.ok n)⟩

theorem movesTo_resize (hstate : s.state ≠ .rendering) (size : Extent) :
    s.MovesTo (.resize size) ((s.resize size).value, .ok ()) := by
  unfold resize
  by_cases hskip : size.isEmpty = true ∨ s.state = .disposed
  · rw [if_pos hskip]
    exact movesTo_of_backend_eq rfl (.adjusted (.resize size) trivial _)
  · rw [if_neg hskip]
    by_cases hs : s.state = .uninitialized
    · simp only [hs, if_true]
      exact movesTo_of_backend_eq rfl (by simpa [hs] using .adjusted (.resize size) trivial _)
    · have hready : s.state = .ready := by
        cases hs' : s.state <;> simp_all
      simp only [hs, if_false, Logged.value_bind, Traced.value_resize]
      exact ⟨[.resize size], rfl, by simpa [hready] using .resized size⟩

theorem movesTo_dispose (hstate : s.state ≠ .rendering) :
    s.MovesTo .dispose (s.dispose.value, .ok ()) := by
  unfold dispose
  cases hs : s.state with
  | disposed => exact movesTo_of_backend_eq rfl (by simpa [hs] using .endedAgain)
  | uninitialized => exact movesTo_of_backend_eq rfl (by simpa [hs] using .endedUnused)
  | rendering => exact absurd hs hstate
  | ready => exact ⟨[.release], rfl, by simpa [hs] using .released⟩

theorem present_cases (s : RenderSession (Traced β) τ) (mesh : Mesh) (atlas : Atlas) :
    (∃ inner e, (s.present mesh atlas).value =
      ({ s with backend := ⟨inner, s.backend.calls ++ [.upload mesh atlas (.error e)]⟩ },
        .error e)) ∨
    (∃ inner e, (s.present mesh atlas).value =
      ({ s.uploaded mesh with
          backend := ⟨inner, s.backend.calls ++
            [.upload mesh atlas (.ok ()), .draw (s.camera.frame mesh.bounds) (.error e)]⟩ },
        .error e)) ∨
    ∃ inner n, (s.present mesh atlas).value =
      ({ s.uploaded mesh with
          backend := ⟨inner, s.backend.calls ++
            [.upload mesh atlas (.ok ()), .draw (s.camera.frame mesh.bounds) (.ok n)]⟩
          stats := { (s.uploaded mesh).stats with drawCalls := s.stats.drawCalls + n } },
        .ok ()) := by
  unfold present
  rcases hupload : ((RenderBackend.upload mesh atlas).run s.backend.inner).value with
    ⟨answer, uploaded⟩
  cases answer with
  | error e => exact .inl ⟨uploaded, e, by simp [Traced.value_upload, hupload]⟩
  | ok u =>
    rcases hdraw : ((RenderBackend.draw (s.camera.frame mesh.bounds)).run uploaded).value with
      ⟨answer, inner⟩
    cases answer with
    | error e =>
      exact .inr (.inl ⟨inner, e, by
        simp [Traced.value_upload, Traced.value_draw, draw, RenderSession.uploaded, hupload, hdraw]⟩)
    | ok n =>
      exact .inr (.inr ⟨inner, n, by
        simp [Traced.value_upload, Traced.value_draw, draw, RenderSession.uploaded, hupload, hdraw]⟩)

variable [TextureSource τ]

theorem rendered_render (hready : s.state = .ready)
    (model : Model) : s.Rendered (s.render model).value := by
  have hrefusal : s.refusal? = none := by simp [refusal?, hready]
  rw [render_value hrefusal]
  cases hmesh : (Mesh.build model).value with
  | error e =>
    have hvalue : (uploadAndDraw { s with state := .rendering } model).value =
        ({ s with state := .rendering }, .error (.geometry e)) := by
      simp [uploadAndDraw, hmesh]
    rw [hvalue]
    exact .unbuilt s.textures (.geometry e)
  | ok mesh =>
    cases hatlas : ((Atlas.build mesh.textures).run s.textures).value with
    | mk result textures =>
    cases result with
    | error e =>
      have hvalue : (uploadAndDraw { s with state := .rendering } model).value =
          ({ s with state := .rendering, textures := textures }, .error (.texture e)) := by
        simp [uploadAndDraw, hmesh, hatlas]
      rw [hvalue]
      exact .unbuilt textures (.texture e)
    | ok atlas =>
      have hvalue : (uploadAndDraw { s with state := .rendering } model).value =
          (present { s with state := .rendering, textures := textures }
            (mesh.remap atlas.rect?) atlas).value := by
        simp [uploadAndDraw, hmesh, hatlas]
      rw [hvalue]
      rcases present_cases { s with state := .rendering, textures := textures }
        (mesh.remap atlas.rect?) atlas with ⟨inner, e, h⟩ | ⟨inner, e, h⟩ | ⟨inner, n, h⟩
      · rw [h]
        exact .notUploaded textures inner _ atlas e
      · rw [h]
        exact .notDrawn textures inner _ atlas e
      · rw [h]
        exact .drawn textures inner _ atlas n

theorem movesTo_render (hstate : s.state ≠ .rendering) (model : Model) {op : SessionOp}
    (hop : op.Draws) : s.MovesTo op (s.render model).value := by
  cases hrefusal : s.refusal? with
  | some e =>
    rw [render_value_of_refusal hrefusal]
    exact movesTo_of_refusal hrefusal hstate hop
  | none =>
    have hready := state_eq_ready hrefusal
    exact (rendered_render hready model).movesTo hready hop

/-- Every operation of a session that is not in the middle of rendering does one of the things
listed. -/
theorem movesTo_apply (hstate : s.state ≠ .rendering) (op : SessionOp) :
    s.MovesTo op (s.apply op).value := by
  cases op with
  | setup => exact movesTo_setup hstate
  | render model => exact movesTo_render hstate model trivial
  | handle m =>
    cases m with
    | renderModel model => exact movesTo_render hstate model trivial
  | redraw => exact movesTo_redraw hstate
  | resize size => exact movesTo_resize hstate size
  | orbit yaw pitch => exact movesTo_of_backend_eq rfl (.adjusted (.orbit yaw pitch) trivial _)
  | dolly amount => exact movesTo_of_backend_eq rfl (.adjusted (.dolly amount) trivial _)
  | dispose => exact movesTo_dispose hstate

end RenderSession
end ModelPreview
