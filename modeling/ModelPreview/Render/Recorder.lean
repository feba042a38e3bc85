import ModelPreview.Render.Session

/-!
# A backend that only takes notes

The recorder draws nothing.  It writes down what it is asked to do and fails where it is told to.
-/

namespace ModelPreview

/-- Something that happened to a recorder or to the session around it. -/
inductive RenderEvent where
  /-- The backend was set up. -/
  | setup (size : Extent)
  /-- The backend was given another size. -/
  | resize (size : Extent)
  /-- A mesh and its atlas were uploaded. -/
  | upload (mesh : Mesh) (atlas : Atlas)
  /-- The given number of indices was drawn. -/
  | draw (bound : Nat) (viewProjection : Matrix4)
  /-- The backend was released. -/
  | release
  /-- A model was handed to the session. -/
  | received (model : Model)
  /-- The session failed. -/
  | failed (e : RenderError)

/-- A backend that only takes notes. -/
structure Recorder where
  /-- How setting up fails, if it does. -/
  setupError : Option RenderError := none
  /-- How uploading fails, if it does. -/
  uploadError : Option RenderError := none
  /-- How drawing fails, if it does. -/
  drawError : Option RenderError := none
  /-- The number of indices of the mesh uploaded last. -/
  bound : Nat := 0
  /-- What happened, oldest first. -/
  events : List RenderEvent := []

namespace Recorder

/-- Write something down. -/
def note (r : Recorder) (e : RenderEvent) : Recorder := { r with events := r.events ++ [e] }

/-- What a call returns: the error it is told to fail with, or a result. -/
def answer (e : Option RenderError) (a : α) : Except RenderError α :=
  match e with
  | some e => .error e
  | none => .ok a

instance : RenderBackend Recorder where
  setup size := fun r => return (answer r.setupError (), r.note (.setup size))
  resize size := fun r => return ((), r.note (.resize size))
  upload mesh atlas := fun r =>
    let bound := if r.uploadError.isSome then r.bound else mesh.indices.size
    return (answer r.uploadError (), { r.note (.upload mesh atlas) with bound := bound })
  draw camera := fun r =>
    return (answer r.drawError (if 0 < r.bound then 1 else 0),
      r.note (.draw r.bound camera.viewProjection))
  release := fun r => return ((), { r.note .release with bound := 0 })

/-- Do what a message asks a session for, and write down the message and a failure. -/
def handle [TextureSource τ] (s : RenderSession Recorder τ) (m : RenderMessage) :
    Logged (RenderSession Recorder τ) := do
  let (s, result) ← { s with backend := s.backend.note (.received m.model) }.handle m
  match result with
  | .ok _ => return s
  | .error e => return { s with backend := s.backend.note (.failed e) }

end Recorder
end ModelPreview
