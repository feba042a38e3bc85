import ModelPreview.Bridge.Message
import ModelPreview.Render.Backend

/-!
# Render sessions

A session draws one model at a time with a backend and a source of textures.  It is set up once,
then every model replaces the one before, and after its end nothing is drawn any more.

Main definitions:

- `RenderSession.setup` and `RenderSession.dispose`: beginning and end.
- `RenderSession.render`: replaces the model and draws it.
- `RenderSession.redraw`, `RenderSession.resize`, `RenderSession.orbit`, `RenderSession.dolly`: the
  same model seen anew.
-/

namespace ModelPreview

/-- Where a session stands. -/
inductive SessionState where
  /-- It has not been set up. -/
  | uninitialized
  /-- It can draw. -/
  | ready
  /-- It is drawing. -/
  | rendering
  /-- It has ended. -/
  | disposed
  deriving DecidableEq, Repr

/-- The name of a state. -/
def SessionState.name : SessionState → String
  | .uninitialized => "Uninitialized"
  | .ready => "Ready"
  | .rendering => "Rendering"
  | .disposed => "Disposed"

/-- What a session has done.  The counts are assumed to stay below `2 ^ 64`, so that none of them starts
again. -/
structure SessionStats where
  /-- The number of models uploaded. -/
  renders : Nat := 0
  /-- The number of draw calls. -/
  drawCalls : Nat := 0
  /-- The number of vertices of the last model. -/
  vertices : Nat := 0
  /-- The number of indices of the last model. -/
  indices : Nat := 0
  deriving DecidableEq, Repr

/-- A render session. -/
structure RenderSession (β τ : Type) where
  /-- What it draws with. -/
  backend : β
  /-- Where textures come from. -/
  textures : τ
  /-- Where it stands. -/
  state : SessionState := .uninitialized
  /-- The camera. -/
  camera : Camera
  /-- The size of the picture. -/
  size : Extent
  /-- What it has done. -/
  stats : SessionStats := {}

namespace RenderSession

/-- The width of an extent over its height. -/
def aspect (e : Extent) : Float32 := Binary.ofWord e.width / Binary.ofWord e.height

/-- A session that has not been set up. -/
def create (backend : β) (textures : τ) (size : Extent) : RenderSession β τ where
  backend := backend
  textures := textures
  camera := .initial (aspect size.atLeastOne)
  size := size

variable [RenderBackend β] [TextureSource τ]

/-- Set the session up, unless that has been done.  After a failure it can be tried again. -/
def setup (s : RenderSession β τ) : Logged (RenderSession β τ × Except RenderError Unit) := do
  match s.state with
  | .disposed => return (s, .error .disposed)
  | .ready => return (s, .ok ())
  | .rendering => return (s, .ok ())
  | .uninitialized =>
    let (result, backend) ← (RenderBackend.setup s.size).run s.backend
    match result with
    | .error e =>
      Logged.error s!"Render session setup failed: {e.message}"
      return ({ s with backend := backend }, .error e)
    | .ok _ =>
      Logged.info s!"Render session ready ({s.size.width}x{s.size.height})"
      return ({ s with backend := backend, state := .ready }, .ok ())

/-- Why the session cannot draw now, if it cannot. -/
def refusal? (s : RenderSession β τ) : Option RenderError :=
  match s.state with
  | .ready => none
  | .disposed => some .disposed
  | .uninitialized => some .notReady
  | .rendering => some .notReady

/-- Draw what has been uploaded. -/
def draw (s : RenderSession β τ) : Logged (RenderSession β τ × Except RenderError Unit) := do
  let (result, backend) ← (RenderBackend.draw s.camera).run s.backend
  match result with
  | .error e => return ({ s with backend := backend }, .error e)
  | .ok calls =>
    let stats := { s.stats with drawCalls := s.stats.drawCalls + calls }
    return ({ s with backend := backend, stats := stats }, .ok ())

/-- Take note of a mesh that has been uploaded: the camera looks at all of it. -/
def uploaded (s : RenderSession β τ) (mesh : Mesh) : RenderSession β τ :=
  { s with
    camera := s.camera.frame mesh.bounds
    stats := { s.stats with
      renders := s.stats.renders + 1
      vertices := mesh.vertices.size
      indices := mesh.indices.size } }

/-- Upload a mesh and draw it. -/
def present (s : RenderSession β τ) (mesh : Mesh) (atlas : Atlas) :
    Logged (RenderSession β τ × Except RenderError Unit) := do
  let (result, backend) ← (RenderBackend.upload mesh atlas).run s.backend
  match result with
  | .error e => return ({ s with backend := backend }, .error e)
  | .ok _ =>
    Logged.debug <|
      s!"Uploaded {mesh.vertices.size} vertices, {mesh.indices.size} indices, "
        ++ s!"{atlas.textureCount} textures"
    draw (uploaded { s with backend := backend } mesh)

/-- Build the mesh and the atlas of a model, upload them and draw. -/
def uploadAndDraw (s : RenderSession β τ) (model : Model) :
    Logged (RenderSession β τ × Except RenderError Unit) := do
  match ← Mesh.build model with
  | .error e => return (s, .error (.geometry e))
  | .ok mesh =>
    let (result, textures) ← (Atlas.build mesh.textures).run s.textures
    let s := { s with textures := textures }
    match result with
    | .error e => return (s, .error (.texture e))
    | .ok atlas => s.present (mesh.remap atlas.rect?) atlas

/-- Replace the model and draw it. -/
def render (s : RenderSession β τ) (model : Model) :
    Logged (RenderSession β τ × Except RenderError Unit) := do
  match s.refusal? with
  | some e => return (s, .error e)
  | none =>
    let (s, result) ← uploadAndDraw { s with state := .rendering } model
    match result with
    | .error e => Logged.error s!"Render failed: {e.message}"
    | .ok _ => pure ()
    return ({ s with state := .ready }, result)

/-- Do what a message asks for. -/
def handle (s : RenderSession β τ) : RenderMessage → Logged (RenderSession β τ × Except RenderError Unit)
  | .renderModel model => s.render model

/-- Draw the same model again. -/
def redraw (s : RenderSession β τ) : Logged (RenderSession β τ × Except RenderError Unit) := do
  match s.refusal? with
  | some e => return (s, .error e)
  | none => s.draw

/-- Change the size of the picture; a size without pixels is ignored. -/
def resize (s : RenderSession β τ) (size : Extent) : Logged (RenderSession β τ) := do
  if size.isEmpty ∨ s.state = .disposed then return s
  else
    let s := { s with size := size, camera := s.camera.setAspect (aspect size) }
    if s.state = .uninitialized then return s
    else
      let (_, backend) ← (RenderBackend.resize size).run s.backend
      return { s with backend := backend }

/-- Turn the camera. -/
def orbit (s : RenderSession β τ) (yaw pitch : Float32) : RenderSession β τ :=
  { s with camera := s.camera.orbit yaw pitch }

/-- Move the camera. -/
def dolly (s : RenderSession β τ) (amount : Float32) : RenderSession β τ :=
  { s with camera := s.camera.dolly amount }

/-- End the session; ending it twice changes nothing. -/
def dispose (s : RenderSession β τ) : Logged (RenderSession β τ) := do
  match s.state with
  | .disposed => return s
  | .uninitialized =>
    Logged.info "Render session disposed"
    return { s with state := .disposed }
  | _ =>
    let (_, backend) ← (RenderBackend.release).run s.backend
    Logged.info "Render session disposed"
    return { s with backend := backend, state := .disposed }

end RenderSession
end ModelPreview
