import ModelPreview.Geometry.Camera
import ModelPreview.Mesh.Basic
import ModelPreview.Render.Color
import ModelPreview.Texture.Atlas

/-!
# What a render session draws with

A backend holds whatever is needed to draw.  Each of its operations may change it, may fail and may
log; in which order they are called is decided by the session.

Main definitions:

- `RenderError`: what can go wrong while drawing.
- `RenderBackend`: what a session needs to draw.
-/

namespace ModelPreview

/-! ## Errors -/

/-- A stage of the shader program. -/
inductive ShaderStage where
  /-- Places the vertices. -/
  | vertex
  /-- Colours the pixels. -/
  | fragment
  deriving DecidableEq, Repr

/-- The name of a stage. -/
def ShaderStage.name : ShaderStage → String
  | .vertex => "vertex"
  | .fragment => "fragment"

/-- Why there is no shader program. -/
inductive CompileError where
  /-- A stage does not compile. -/
  | stage (s : ShaderStage) (log : String)
  /-- The stages do not fit together. -/
  | link (log : String)
  deriving DecidableEq, Repr

/-- The text of a compile error, with the log of the compiler. -/
def CompileError.message : CompileError → String
  | .stage s log => s!"{s.name} shader failed to compile:\n{log}"
  | .link log => s!"render pipeline failed to link:\n{log}"

/-- Why there is no frame to draw on. -/
inductive FrameError where
  /-- It took too long. -/
  | timeout
  /-- The surface has changed. -/
  | outdated
  /-- The surface is lost. -/
  | lost
  /-- There is no memory left. -/
  | outOfMemory
  deriving DecidableEq, Repr

/-- The text of a frame error. -/
def FrameError.message : FrameError → String
  | .timeout => "A timeout was encountered while trying to acquire the next frame"
  | .outdated => "The underlying surface has changed, and therefore the swap chain must be updated"
  | .lost => "The swap chain has been lost and needs to be recreated"
  | .outOfMemory => "There is no more memory left to allocate a new frame"

/-- What can go wrong while drawing. -/
inductive RenderError where
  /-- There is no shader program. -/
  | compile (e : CompileError)
  /-- The model has no mesh. -/
  | geometry (e : TooManyVertices)
  /-- The textures do not fit. -/
  | texture (e : TextureError)
  /-- The session is not set up. -/
  | notReady
  /-- The session has ended. -/
  | disposed
  /-- There is no graphics hardware to use. -/
  | noAdapter
  /-- The window cannot be drawn on. -/
  | createSurface (text : String)
  /-- The graphics hardware cannot be used. -/
  | requestDevice (text : String)
  /-- There is no frame to draw on. -/
  | surface (e : FrameError)
  deriving DecidableEq, Repr

/-- The text of a render error. -/
def RenderError.message : RenderError → String
  | .compile e => e.message
  | .geometry e => e.message
  | .texture e => e.message
  | .notReady => "render session is not set up"
  | .disposed => "render session has been disposed"
  | .noAdapter => "no suitable GPU adapter found"
  | .createSurface text => s!"failed to create surface: {text}"
  | .requestDevice text => s!"failed to create device: {text}"
  | .surface e => s!"failed to acquire frame: {e.message}"

/-! ## Backends -/

/-- States `β` that can draw. -/
class RenderBackend (β : Type) where
  /-- Get ready to draw in the given size. -/
  setup : Extent → StateT β Logged (Except RenderError Unit)
  /-- Draw in another size from now on. -/
  resize : Extent → StateT β Logged Unit
  /-- Replace what is drawn. -/
  upload : Mesh → Atlas → StateT β Logged (Except RenderError Unit)
  /-- Draw; returns the number of draw calls, which is below `2 ^ 32`. -/
  draw : Camera → StateT β Logged (Except RenderError Nat)
  /-- Give back everything. -/
  release : StateT β Logged Unit

end ModelPreview
