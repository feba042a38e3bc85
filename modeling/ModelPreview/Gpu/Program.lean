import ModelPreview.Gpu.Device

/-!
# The shader program

Two stages written in WGSL place the vertices and colour the pixels.  Each stage is compiled on its
own, so that a failure tells which stage it is about, and both are then linked into a pipeline.

Main definitions:

- `vertexSource` and `fragmentSource`: the built-in stages.
- `Gpu.Program.compile`: compiles and links two stages.
-/

namespace ModelPreview

/-- Lines of text, each with its end. -/
def textOfLines (lines : List String) : String := String.join (lines.map (· ++ "\n"))

/-- The stage that places the vertices. -/
def vertexSource : String := textOfLines [
  "// Model vertex stage: world-space positions, camera view-projection.",
  "",
  "struct CameraUniform \x7b",
  "    view_proj: mat4x4<f32>,",
  "\x7d;",
  "",
  "@group(0) @binding(0)",
  "var<uniform> camera: CameraUniform;",
  "",
  "struct VertexInput \x7b",
  "    @location(0) position: vec3<f32>,",
  "    @location(1) tex_coords: vec2<f32>,",
  "    @location(2) normal: vec3<f32>,",
  "\x7d;",
  "",
  "struct VertexOutput \x7b",
  "    @builtin(position) clip_position: vec4<f32>,",
  "    @location(0) tex_coords: vec2<f32>,",
  "    @location(1) normal: vec3<f32>,",
  "\x7d;",
  "",
  "@vertex",
  "fn vs_main(in: VertexInput) -> VertexOutput \x7b",
  "    var out: VertexOutput;",
  "    out.clip_position = camera.view_proj * vec4<f32>(in.position, 1.0);",
  "    out.tex_coords = in.tex_coords;",
  "    out.normal = in.normal;",
  "    return out;",
  "\x7d"]

/-- The stage that samples the atlas and shades faces by their direction. -/
def fragmentSource : String := textOfLines [
  "// Model fragment stage: atlas sample with fixed per-direction shading.",
  "",
  "@group(1) @binding(0)",
  "var t_atlas: texture_2d<f32>;",
  "@group(1) @binding(1)",
  "var s_atlas: sampler;",
  "",
  "struct FragmentInput \x7b",
  "    @location(0) tex_coords: vec2<f32>,",
  "    @location(1) normal: vec3<f32>,",
  "\x7d;",
  "",
  "// up 1.0, down 0.5, north/south 0.8, east/west 0.6",
  "fn face_shade(n: vec3<f32>) -> f32 \x7b",
  "    let sq = n * n;",
  "    let vertical = select(0.5, 1.0, n.y > 0.0);",
  "    return sq.x * 0.6 + sq.y * vertical + sq.z * 0.8;",
  "\x7d",
  "",
  "@fragment",
  "fn fs_main(in: FragmentInput) -> @location(0) vec4<f32> \x7b",
  "    let texel = textureSample(t_atlas, s_atlas, in.tex_coords);",
  "    if (texel.a < 0.5) \x7b",
  "        discard;",
  "    \x7d",
  "    let shade = face_shade(normalize(in.normal));",
  "    return vec4<f32>(texel.rgb * shade, 1.0);",
  "\x7d"]

/-- The form of an attribute of a vertex. -/
inductive AttributeForm where
  /-- Two numbers. -/
  | pair
  /-- Three numbers. -/
  | triple
  deriving DecidableEq, Repr

namespace AttributeForm

/-- The number of bytes. -/
def size : AttributeForm → Nat
  | pair => 8
  | triple => 12

/-- The name of a form. -/
def name : AttributeForm → String
  | pair => "Float32x2"
  | triple => "Float32x3"

/-- The number of bytes of a list of attributes. -/
def totalSize (attributes : List AttributeForm) : Nat := attributes.foldl (fun n a => n + a.size) 0

end AttributeForm

namespace Vertex

/-- The numbers of a vertex as they lie in a buffer. -/
def toNumbers (v : Vertex) : List Float32 := v.position.toList ++ [v.uv.u, v.uv.v] ++ v.normal.toList

/-- The attributes of a vertex: position, point of the texture, normal. -/
def attributes : List AttributeForm := [.triple, .pair, .triple]

/-- The number of bytes of a vertex. -/
def stride : Nat := AttributeForm.totalSize attributes

/-- The attributes with their numbers and where they start. -/
def layout : List (Nat × Nat × AttributeForm) :=
  attributes.zipIdx.map fun (form, i) => (i, AttributeForm.totalSize (attributes.take i), form)

end Vertex

namespace Gpu

/-- A linked program. -/
structure Program where
  /-- The pipeline. -/
  pipeline : Nat
  /-- The layout of the group of the camera. -/
  cameraLayout : Nat
  /-- The layout of the group of the atlas. -/
  textureLayout : Nat
  deriving DecidableEq, Repr

/-- The label of a stage. -/
def stageLabel : ShaderStage → String
  | .vertex => "Model Vertex Shader"
  | .fragment => "Model Fragment Shader"

/-- Compile a stage. -/
def compileStage (stage : ShaderStage) (source : String) : DeviceM (Except CompileError Nat) := do
  record .pushErrorScope
  let id ← create .shader (.createShaderModule · (stageLabel stage) source)
  match ← popErrorScope with
  | none => return .ok id
  | some log =>
    Logged.error s!"{stage.name} shader failed to compile: {log}"
    return .error (.stage stage log)

/-- The layout of the group of the camera. -/
def cameraEntries : List LayoutEntry := [⟨0, .vertex, .uniformBuffer⟩]

/-- The layout of the group of the atlas. -/
def textureEntries : List LayoutEntry := [⟨0, .fragment, .texture⟩, ⟨1, .fragment, .sampler⟩]

/-- Link two stages into a pipeline. -/
def linkProgram (vertex fragment : Nat) (format : TextureFormat) :
    DeviceM (Except CompileError Program) := do
  let camera ← create .layout (.createLayout · "Camera Bind Group Layout" cameraEntries)
  let texture ← create .layout (.createLayout · "Atlas Bind Group Layout" textureEntries)
  let layout ←
    create .pipelineLayout (.createPipelineLayout · "Model Pipeline Layout" [camera, texture])
  record .pushErrorScope
  let pipeline ←
    create .pipeline (.createPipeline · "Model Pipeline" layout vertex fragment format)
  match ← popErrorScope with
  | none =>
    Logged.info "Model pipeline linked"
    return .ok ⟨pipeline, camera, texture⟩
  | some log =>
    Logged.error s!"Pipeline link failed: {log}"
    return .error (.link log)

/-- Compile both stages and link them for frames of a format. -/
def Program.compile (vertexText fragmentText : String) (format : TextureFormat) :
    DeviceM (Except CompileError Program) := do
  match ← compileStage .vertex vertexText with
  | .error e => return .error e
  | .ok vertex =>
    match ← compileStage .fragment fragmentText with
    | .error e => return .error e
    | .ok fragment => linkProgram vertex fragment format

end Gpu
end ModelPreview
