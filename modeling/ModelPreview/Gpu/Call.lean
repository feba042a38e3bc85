import ModelPreview.Render.Backend

/-!
# Calls to the graphics device

Everything the renderer asks of the graphics device is a call, recorded with its arguments.  Objects
that a call creates are known by a number, counted separately for every kind of object.

Main definitions:

- `TextureFormat`, `AlphaMode`, `FrameAnswer`: values of the device.
- `Gpu.ResourceKind` and `Gpu.Counters`: the kinds of objects and how many of each there are.
- `Gpu.Call`: the calls.
-/

namespace ModelPreview

/-- How the pixels of a texture are stored. -/
inductive TextureFormat where
  /-- Blue first, with the curve of a screen. -/
  | bgra8UnormSrgb
  /-- Red first, with the curve of a screen. -/
  | rgba8UnormSrgb
  /-- Blue first. -/
  | bgra8Unorm
  /-- Red first. -/
  | rgba8Unorm
  /-- Red first, 16-bit floating-point numbers. -/
  | rgba16Float
  /-- Depths. -/
  | depth24Plus
  deriving DecidableEq, Repr

namespace TextureFormat

/-- All formats. -/
def all : List TextureFormat :=
  [bgra8UnormSrgb, rgba8UnormSrgb, bgra8Unorm, rgba8Unorm, rgba16Float, depth24Plus]

/-- The name of a format. -/
def name : TextureFormat → String
  | bgra8UnormSrgb => "Bgra8UnormSrgb"
  | rgba8UnormSrgb => "Rgba8UnormSrgb"
  | bgra8Unorm => "Bgra8Unorm"
  | rgba8Unorm => "Rgba8Unorm"
  | rgba16Float => "Rgba16Float"
  | depth24Plus => "Depth24Plus"

/-- The format with a name. -/
def ofName? (s : String) : Option TextureFormat := all.find? fun f => f.name = s

/-- Whether colours are stored with the curve of a screen. -/
def isSrgb : TextureFormat → Bool
  | bgra8UnormSrgb => true
  | rgba8UnormSrgb => true
  | _ => false

end TextureFormat

/-- The format of the depths. -/
def depthFormat : TextureFormat := .depth24Plus

/-- How the opacity of a frame is used. -/
inductive AlphaMode where
  /-- The device chooses. -/
  | auto
  /-- It is ignored. -/
  | ignored
  /-- The colours are already multiplied by it. -/
  | preMultiplied
  /-- The window system chooses. -/
  | inherit
  deriving DecidableEq, Repr

namespace AlphaMode

/-- All modes. -/
def all : List AlphaMode := [auto, ignored, preMultiplied, inherit]

/-- The name of a mode. -/
def name : AlphaMode → String
  | auto => "Auto"
  | ignored => "Opaque"
  | preMultiplied => "PreMultiplied"
  | inherit => "Inherit"

/-- The mode with a name. -/
def ofName? (s : String) : Option AlphaMode := all.find? fun m => m.name = s

end AlphaMode

/-- The answer to the question for the next frame; none is a frame. -/
abbrev FrameAnswer := Option FrameError

namespace FrameAnswer

/-- All answers. -/
def all : List FrameAnswer := [none, some .timeout, some .outdated, some .lost, some .outOfMemory]

/-- The name of an answer. -/
def name : FrameAnswer → String
  | none => "ok"
  | some .timeout => "timeout"
  | some .outdated => "outdated"
  | some .lost => "lost"
  | some .outOfMemory => "oom"

/-- The answer with a name. -/
def ofName? (s : String) : Option FrameAnswer := all.find? fun a => name a = s

end FrameAnswer

namespace Gpu

/-! ## Objects of the device -/

/-- The kinds of objects. -/
inductive ResourceKind where
  /-- Compiled stages. -/
  | shader
  /-- Layouts of bind groups. -/
  | layout
  /-- Layouts of pipelines. -/
  | pipelineLayout
  /-- Pipelines. -/
  | pipeline
  /-- Textures, frames included. -/
  | texture
  /-- Views of textures. -/
  | view
  /-- Buffers. -/
  | buffer
  /-- Bind groups. -/
  | bindGroup
  /-- Samplers. -/
  | sampler
  /-- Command encoders. -/
  | encoder
  deriving DecidableEq, Repr

/-- How many objects of each kind have been created. -/
structure Counters where
  /-- Compiled stages. -/
  shader : Nat := 0
  /-- Layouts of bind groups. -/
  layout : Nat := 0
  /-- Layouts of pipelines. -/
  pipelineLayout : Nat := 0
  /-- Pipelines. -/
  pipeline : Nat := 0
  /-- Textures. -/
  texture : Nat := 0
  /-- Views of textures. -/
  view : Nat := 0
  /-- Buffers. -/
  buffer : Nat := 0
  /-- Bind groups. -/
  bindGroup : Nat := 0
  /-- Samplers. -/
  sampler : Nat := 0
  /-- Command encoders. -/
  encoder : Nat := 0
  deriving DecidableEq, Repr

namespace Counters

/-- How many objects of a kind there are. -/
def count (c : Counters) : ResourceKind → Nat
  | .shader => c.shader
  | .layout => c.layout
  | .pipelineLayout => c.pipelineLayout
  | .pipeline => c.pipeline
  | .texture => c.texture
  | .view => c.view
  | .buffer => c.buffer
  | .bindGroup => c.bindGroup
  | .sampler => c.sampler
  | .encoder => c.encoder

/-- One more object of a kind. -/
def bump (c : Counters) : ResourceKind → Counters
  | .shader => { c with shader := c.shader + 1 }
  | .layout => { c with layout := c.layout + 1 }
  | .pipelineLayout => { c with pipelineLayout := c.pipelineLayout + 1 }
  | .pipeline => { c with pipeline := c.pipeline + 1 }
  | .texture => { c with texture := c.texture + 1 }
  | .view => { c with view := c.view + 1 }
  | .buffer => { c with buffer := c.buffer + 1 }
  | .bindGroup => { c with bindGroup := c.bindGroup + 1 }
  | .sampler => { c with sampler := c.sampler + 1 }
  | .encoder => { c with encoder := c.encoder + 1 }

@[simp]
theorem count_bump_self (c : Counters) (k : ResourceKind) : (c.bump k).count k = c.count k + 1 := by
  cases k <;> rfl

theorem count_bump_of_ne (c : Counters) {k k' : ResourceKind} (h : k' ≠ k) :
    (c.bump k).count k' = c.count k' := by
  cases k <;> cases k' <;> first | rfl | exact absurd rfl h

end Counters

/-! ## Arguments of calls -/

/-- What a buffer is used for. -/
inductive BufferRole where
  /-- Values that all vertices share; it can be written to. -/
  | uniform
  /-- Vertices. -/
  | vertex
  /-- Indices. -/
  | index
  deriving DecidableEq, Repr

/-- What a buffer holds. -/
inductive BufferData where
  /-- Floating-point numbers. -/
  | numbers (xs : List Float32)
  /-- Indices. -/
  | indices (xs : Array UInt16)
  deriving DecidableEq, Repr

/-- What a texture is used for. -/
inductive TextureRole where
  /-- It is drawn on. -/
  | attachment
  /-- It is copied to and read by the shader. -/
  | sampled
  deriving DecidableEq, Repr

/-- What an entry of a bind group has to be. -/
inductive BindingKind where
  /-- A buffer of shared values. -/
  | uniformBuffer
  /-- A texture of which values in between can be taken. -/
  | texture
  /-- A sampler. -/
  | sampler
  deriving DecidableEq, Repr

/-- An entry of the layout of a bind group. -/
structure LayoutEntry where
  /-- The number of the entry. -/
  binding : Nat
  /-- The stage that uses it. -/
  stage : ShaderStage
  /-- What it has to be. -/
  kind : BindingKind
  deriving DecidableEq, Repr

/-- An entry of a bind group. -/
inductive Binding where
  /-- A buffer. -/
  | buffer (id : Nat)
  /-- A view. -/
  | view (id : Nat)
  /-- A sampler. -/
  | sampler (id : Nat)
  deriving DecidableEq, Repr

/-- How the surface is set up. -/
structure SurfaceConfig where
  /-- The format of its frames. -/
  format : TextureFormat
  /-- Their size. -/
  size : Extent
  /-- How their opacity is used. -/
  alpha : AlphaMode
  deriving DecidableEq, Repr

/-- A call to the device. -/
inductive Call where
  /-- Start using the graphics system. -/
  | createInstance
  /-- Draw on the window. -/
  | createSurface
  /-- Ask for hardware that can draw on the window. -/
  | requestAdapter
  /-- Ask for the use of the hardware. -/
  | requestDevice (label : String)
  /-- Ask what the surface can do. -/
  | capabilities
  /-- Set the surface up. -/
  | configure (config : SurfaceConfig)
  /-- Start to collect errors. -/
  | pushErrorScope
  /-- Ask for the error collected. -/
  | popErrorScope (error : Option String)
  /-- Compile a stage. -/
  | createShaderModule (id : Nat) (label source : String)
  /-- Create the layout of a bind group. -/
  | createLayout (id : Nat) (label : String) (entries : List LayoutEntry)
  /-- Create the layout of a pipeline. -/
  | createPipelineLayout (id : Nat) (label : String) (layouts : List Nat)
  /-- Create a pipeline from its layout and two stages. -/
  | createPipeline (id : Nat) (label : String) (layout vertex fragment : Nat) (format : TextureFormat)
  /-- Create a texture. -/
  | createTexture (id : Nat) (label : String) (size : Extent) (format : TextureFormat)
      (role : TextureRole)
  /-- Create a view of a whole texture. -/
  | createView (id texture : Nat)
  /-- Create a buffer. -/
  | createBuffer (id : Nat) (label : String) (role : BufferRole) (contents : BufferData)
  /-- Create a sampler that takes the nearest pixel. -/
  | createSampler (id : Nat) (label : String)
  /-- Create a bind group. -/
  | createBindGroup (id : Nat) (label : String) (layout : Nat) (entries : List (Nat × Binding))
  /-- Replace the contents of a buffer. -/
  | writeBuffer (id : Nat) (contents : BufferData)
  /-- Replace the contents of a texture. -/
  | writeTexture (id : Nat) (image : Image)
  /-- Ask for the next frame. -/
  | acquireFrame (answer : FrameAnswer)
  /-- Start to collect commands. -/
  | createEncoder (id : Nat) (label : String)
  /-- Clear the views and start to draw on them. -/
  | beginPass (label : String) (color depth : Nat) (clear : Color)
  /-- Draw into a part of the views, as wide and as high as said. -/
  | setViewport (width height : Float32)
  /-- Use a pipeline. -/
  | setPipeline (id : Nat)
  /-- Use a bind group. -/
  | setBindGroup (index id : Nat)
  /-- Use a buffer of vertices. -/
  | setVertexBuffer (id : Nat)
  /-- Use a buffer of indices. -/
  | setIndexBuffer (id : Nat)
  /-- Draw the triangles of the first indices. -/
  | drawIndexed (count : UInt32)
  /-- Stop drawing. -/
  | endPass
  /-- Stop collecting commands. -/
  | finishEncoder (id : Nat)
  /-- Carry commands out. -/
  | submit (encoders : List Nat)
  /-- Show a frame. -/
  | present (texture : Nat)

end Gpu
end ModelPreview
