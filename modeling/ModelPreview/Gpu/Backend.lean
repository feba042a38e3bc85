import ModelPreview.Gpu.Program

/-!
# Drawing with the graphics device

The backend of the viewer: it sets the device up for a window, keeps the buffers of the model shown,
and draws them into the next frame.  A surface that is lost or outdated is set up again, once.

Main definitions:

- `Gpu.State`: what is kept after setting up.
- `Gpu.Backend`: the device with this state.
-/

namespace ModelPreview
namespace Gpu

/-- The buffers of the model shown. -/
structure MeshBuffers where
  /-- The vertices. -/
  vertexBuffer : Nat
  /-- The indices. -/
  indexBuffer : Nat
  /-- The number of indices. -/
  indexCount : UInt32
  /-- The group of the atlas. -/
  atlasGroup : Nat
  deriving DecidableEq, Repr

/-- What is kept after setting up. -/
structure State where
  /-- How the surface is set up. -/
  config : SurfaceConfig
  /-- The program. -/
  program : Program
  /-- The view of the depths. -/
  depthView : Nat
  /-- The buffer of the camera. -/
  cameraBuffer : Nat
  /-- The group of the camera. -/
  cameraGroup : Nat
  /-- The sampler of the atlas. -/
  sampler : Nat
  /-- The model shown. -/
  mesh : Option MeshBuffers := none
  deriving DecidableEq, Repr

/-- A device that draws on a window. -/
structure Backend where
  /-- The device. -/
  device : Device
  /-- The colour behind the model. -/
  clearColor : Color
  /-- What is kept after setting up. -/
  state : Option State := none

/-! ## Setting up -/

/-- Create the texture of the depths; its view is returned. -/
def createDepth (size : Extent) : DeviceM Nat := do
  let texture ← create .texture (.createTexture · "Depth Texture" size depthFormat .attachment)
  create .view (.createView · texture)

/-- The format of the frames: one with the curve of a screen if there is one. -/
def chooseFormat? (formats : List TextureFormat) : Option TextureFormat :=
  (formats.find? (·.isSrgb)).or formats.head?

/-- Ask for the device; returns how the surface is to be set up. -/
def openDevice (size : Extent) : DeviceM (Except RenderError SurfaceConfig) := do
  let environment := (← get).environment
  record .createInstance
  record .createSurface
  match environment.surfaceError with
  | some text => return .error (.createSurface text)
  | none =>
    record .requestAdapter
    match environment.adapter with
    | none => return .error .noAdapter
    | some name =>
      Logged.info s!"Using adapter: {name}"
      record (.requestDevice "Model Preview Device")
      match environment.deviceError with
      | some text => return .error (.requestDevice text)
      | none =>
        record .capabilities
        match chooseFormat? environment.formats with
        | none => return .error .noAdapter
        | some format =>
          return .ok ⟨format, size.atLeastOne, environment.alphaModes.head?.getD .auto⟩

/-- Create what every frame needs. -/
def createResources (config : SurfaceConfig) (program : Program) : DeviceM State := do
  let depthView ← createDepth config.size
  let cameraBuffer ← create .buffer
    (.createBuffer · "Camera Buffer" .uniform (.numbers Matrix4.identity.toList))
  let cameraGroup ← create .bindGroup
    (.createBindGroup · "Camera Bind Group" program.cameraLayout [(0, .buffer cameraBuffer)])
  let sampler ← create .sampler (.createSampler · "Atlas Sampler")
  Logged.info <|
    s!"Surface configured: {config.size.width}x{config.size.height} {config.format.name}"
  return {
    config := config
    program := program
    depthView := depthView
    cameraBuffer := cameraBuffer
    cameraGroup := cameraGroup
    sampler := sampler }

/-- Set everything up. -/
def init (size : Extent) : DeviceM (Except RenderError State) := do
  match ← openDevice size with
  | .error e => return .error e
  | .ok config =>
    record (.configure config)
    match ← Program.compile vertexSource fragmentSource config.format with
    | .error e => return .error (.compile e)
    | .ok program => return .ok (← createResources config program)

/-- Set the surface up again, with depths of its size. -/
def State.reconfigure (s : State) : DeviceM State := do
  record (.configure s.config)
  return { s with depthView := ← createDepth s.config.size }

/-! ## The model -/

/-- The label of the atlas texture. -/
def atlasLabel : String := "Model Atlas"

/-- Create the buffers of a mesh. -/
def State.createBuffers (s : State) (mesh : Mesh) (atlas : Atlas) : DeviceM MeshBuffers := do
  let vertexBuffer ← create .buffer (.createBuffer · "Model Vertex Buffer" .vertex
    (.numbers (mesh.vertices.toList.flatMap Vertex.toNumbers)))
  let indexBuffer ← create .buffer
    (.createBuffer · "Model Index Buffer" .index (.indices mesh.indices))
  let texture ← create .texture
    (.createTexture · atlasLabel ⟨atlas.image.width, atlas.image.height⟩ .rgba8UnormSrgb .sampled)
  record (.writeTexture texture atlas.image)
  let view ← create .view (.createView · texture)
  let atlasGroup ← create .bindGroup
    (.createBindGroup · "Atlas Bind Group" s.program.textureLayout
      [(0, .view view), (1, .sampler s.sampler)])
  return {
    vertexBuffer := vertexBuffer
    indexBuffer := indexBuffer
    indexCount := mesh.indices.size.toUInt32
    atlasGroup := atlasGroup }

/-- Replace the model; an empty mesh leaves none. -/
def State.upload (s : State) (mesh : Mesh) (atlas : Atlas) : DeviceM State := do
  if mesh.isEmpty then return { s with mesh := none }
  else return { s with mesh := some (← s.createBuffers mesh atlas) }

/-! ## Frames -/

/-- The next frame.  A surface that is lost or outdated is set up again before a second and last
attempt. -/
def State.acquire (s : State) : DeviceM (State × Except FrameError Nat) := do
  match ← acquireFrame with
  | .ok frame => return (s, .ok frame)
  | .error .timeout => return (s, .error .timeout)
  | .error .outOfMemory => return (s, .error .outOfMemory)
  | .error _ =>
    Logged.debug "Surface lost or outdated, reconfiguring"
    let s ← s.reconfigure
    return (s, ← acquireFrame)

/-- Draw the buffers of a mesh. -/
def State.drawMesh (s : State) (mesh : MeshBuffers) : DeviceM Unit := do
  record (.setPipeline s.program.pipeline)
  record (.setBindGroup 0 s.cameraGroup)
  record (.setBindGroup 1 mesh.atlasGroup)
  record (.setVertexBuffer mesh.vertexBuffer)
  record (.setIndexBuffer mesh.indexBuffer)
  record (.drawIndexed mesh.indexCount)

/-- Draw into a frame and show it; returns the number of draw calls. -/
def State.drawFrame (s : State) (clear : Color) (frame : Nat) : DeviceM Nat := do
  let view ← create .view (.createView · frame)
  let encoder ← create .encoder (.createEncoder · "Render Encoder")
  record (.beginPass "Model Render Pass" view s.depthView clear)
  -- A viewport takes floating-point numbers, so long sides are rounded.
  record (.setViewport (Binary.ofWord s.config.size.width) (Binary.ofWord s.config.size.height))
  match s.mesh with
  | some mesh => s.drawMesh mesh
  | none => pure ()
  record .endPass
  record (.finishEncoder encoder)
  record (.submit [encoder])
  record (.present frame)
  return if s.mesh.isSome then 1 else 0

/-- Draw the model as the camera sees it. -/
def State.draw (s : State) (clear : Color) (camera : Camera) :
    DeviceM (State × Except RenderError Nat) := do
  record (.writeBuffer s.cameraBuffer (.numbers camera.viewProjection.toList))
  let (s, result) ← s.acquire
  match result with
  | .error e => return (s, .error (.surface e))
  | .ok frame => return (s, .ok (← s.drawFrame clear frame))

/-! ## The backend -/

namespace Backend

/-- Run an action on the device. -/
def onDevice (b : Backend) (action : DeviceM α) : Logged (α × Backend) := do
  let (a, device) ← action.run b.device
  return (a, { b with device := device })

/-- Set everything up, unless that has been done. -/
def setup (b : Backend) (size : Extent) : Logged (Except RenderError Unit × Backend) := do
  if b.state.isSome then return (.ok (), b)
  else
    let (result, b) ← b.onDevice (init size)
    match result with
    | .error e => return (.error e, b)
    | .ok s => return (.ok (), { b with state := some s })

/-- Change the size of the frames. -/
def resize (b : Backend) (size : Extent) : Logged (Unit × Backend) := do
  match b.state with
  | none => return ((), b)
  | some s =>
    if size.isEmpty then return ((), b)
    else
      let config := { s.config with size := size }
      let (s, b) ← b.onDevice { s with config := config }.reconfigure
      return ((), { b with state := some s })

/-- Replace the model. -/
def upload (b : Backend) (mesh : Mesh) (atlas : Atlas) :
    Logged (Except RenderError Unit × Backend) := do
  match b.state with
  | none => return (.error .notReady, b)
  | some s =>
    let (s, b) ← b.onDevice (s.upload mesh atlas)
    return (.ok (), { b with state := some s })

/-- Draw the model. -/
def draw (b : Backend) (camera : Camera) : Logged (Except RenderError Nat × Backend) := do
  match b.state with
  | none => return (.error .notReady, b)
  | some s =>
    let ((s, result), b) ← b.onDevice (s.draw b.clearColor camera)
    return (result, { b with state := some s })

/-- Give everything back. -/
def release (b : Backend) : Logged (Unit × Backend) := do
  if b.state.isSome then Logged.debug "GPU resources released"
  return ((), { b with state := none })

end Backend

instance : RenderBackend Backend where
  setup size := (Backend.setup · size)
  resize size := (Backend.resize · size)
  upload mesh atlas := (Backend.upload · mesh atlas)
  draw camera := (Backend.draw · camera)
  release := Backend.release

end Gpu
end ModelPreview
