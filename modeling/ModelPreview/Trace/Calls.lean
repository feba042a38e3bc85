import ModelPreview.Trace.Fingerprint
import ModelPreview.Viewer.Window

/-!
# Calls in traces

The written form of every call to the graphics device and to the window system: its name and its
arguments, with all settings spelled out.
-/

namespace ModelPreview
namespace Trace

open Gpu

/-! ## The graphics device -/

/-- A list of numbers. -/
def nats (xs : List Nat) : Json := .list (xs.map Json.nat)

/-- A list of names. -/
def names (xs : List String) : Json := .list (xs.map Json.text)

/-- The sides of an extent. -/
def sides (e : Extent) : List Nat := [e.width.toNat, e.height.toNat]

/-- The contents of a buffer. -/
def contents : BufferData → Json
  | .numbers xs => buffer (singleBytes xs)
  | .indices xs => buffer (indexBytes xs)

/-- What a buffer may be used for. -/
def bufferUsage : BufferRole → List String
  | .uniform => ["COPY_DST", "UNIFORM"]
  | .vertex => ["VERTEX"]
  | .index => ["INDEX"]

/-- What a texture may be used for. -/
def textureUsage : TextureRole → List String
  | .attachment => ["RENDER_ATTACHMENT"]
  | .sampled => ["COPY_DST", "TEXTURE_BINDING"]

/-- The stages that use an entry. -/
def stages : ShaderStage → List String
  | .vertex => ["VERTEX"]
  | .fragment => ["FRAGMENT"]

/-- What an entry has to be. -/
def bindingKind : BindingKind → Json
  | .uniformBuffer => .list [.text "buffer", .text "Uniform", .bool false, .bool false]
  | .texture => .list [.text "texture", .bool true, .text "D2", .bool false]
  | .sampler => .list [.text "sampler", .text "Filtering"]

/-- An entry of a layout. -/
def layoutEntry (e : LayoutEntry) : Json :=
  .record [("binding", .nat e.binding), ("stages", names (stages e.stage)),
    ("type", bindingKind e.kind), ("count", .null)]

/-- An entry of a bind group. -/
def bindGroupEntry : Nat × Binding → Json
  | (n, .buffer id) => .list [.nat n, .text "buffer", .nat id]
  | (n, .view id) => .list [.nat n, .text "view", .nat id]
  | (n, .sampler id) => .list [.nat n, .text "sampler", .nat id]

/-- The attributes of a vertex. -/
def vertexAttributes : Json :=
  .list (Vertex.layout.map fun (i, offset, form) =>
    .list [.nat i, .nat offset, .text form.name])

/-- The settings of a pipeline. -/
def pipeline (label : String) (layout vertex fragment : Nat) (format : TextureFormat) : Json :=
  .record [("label", .text label), ("layout", .nat layout),
    ("vertex", .record [("module", .nat vertex), ("entry", .text "vs_main"),
      ("buffers", .list [.record [("stride", .nat Vertex.stride), ("step", .text "Vertex"),
        ("attributes", vertexAttributes)]])]),
    ("fragment", .record [("module", .nat fragment), ("entry", .text "fs_main"),
      ("targets", .list [.record [("format", .text format.name), ("replace", .bool true),
        ("write_all", .bool true)]])]),
    ("primitive", .record [("topology", .text "TriangleList"), ("strip", .bool false),
      ("front", .text "Ccw"), ("cull", .text "Back"), ("polygon", .text "Fill"),
      ("unclipped", .bool false), ("conservative", .bool false)]),
    ("depth", .record [("format", .text depthFormat.name), ("write", .bool true),
      ("compare", .text "Less"), ("plain", .bool true)]),
    ("multisample", .list [.nat 1, .nat 0xffffffffffffffff, .bool false])]

/-- The settings of a texture. -/
def texture (label : String) (size : Extent) (format : TextureFormat) (role : TextureRole) : Json :=
  .record [("label", .text label), ("size", nats (sides size ++ [1])), ("mips", .nat 1),
    ("samples", .nat 1), ("dimension", .text "D2"), ("format", .text format.name),
    ("usage", names (textureUsage role)), ("view_formats", .nat 0)]

/-- The arguments of a copy into a texture. -/
def textureWrite (image : Image) : Json :=
  .record [("mip", .nat 0), ("origin", nats [0, 0, 0]), ("aspect", .text "All"),
    ("data", buffer image.rgba),
    ("layout", nats [0, (4 * image.width).toNat, image.height.toNat]),
    ("size", nats [image.width.toNat, image.height.toNat, 1])]

/-- The settings of a surface. -/
def surfaceConfig (c : SurfaceConfig) : Json :=
  .record [("usage", names ["RENDER_ATTACHMENT"]), ("format", .text c.format.name),
    ("size", nats (sides c.size)), ("present", .text "AutoVsync"), ("alpha", .text c.alpha.name),
    ("view_formats", .nat 0), ("latency", .nat 2)]

/-- The settings of a sampler. -/
def sampler (label : String) : Json :=
  .record [("label", .text label), ("address", names (List.replicate 3 "ClampToEdge")),
    ("filter", names (List.replicate 3 "Nearest"))]

/-- The settings of a pass. -/
def pass (label : String) (color depth : Nat) (clear : Color) : Json :=
  .record [("label", .text label),
    ("colors", .list [.record [("view", .nat color), ("clear", .list (clear.toList.map double)),
      ("store", .bool true), ("resolve", .bool false)]]),
    ("depth", .record [("view", .nat depth), ("ops", .list [single 1, .bool true]),
      ("stencil", .bool false)])]

/-- The part of the views that is drawn into: it starts at their corner and has all depths. -/
def viewport (width height : Float32) : Json := singles [0, 0, width, height, 0, 1]

/-- Name and arguments of a call. -/
def callItems : Call → List Json
  | .createInstance => [.text "instance", .record [("primary", .bool true)]]
  | .createSurface => [.text "create_surface"]
  | .requestAdapter => [.text "request_adapter",
      .record [("power", .text "None"), ("surface", .bool true), ("fallback", .bool false)]]
  | .requestDevice label => [.text "request_device",
      .record [("label", .text label), ("no_features", .bool true), ("default_limits", .bool true),
        ("trace", .bool false)]]
  | .capabilities => [.text "get_capabilities"]
  | .configure config => [.text "configure", surfaceConfig config]
  | .pushErrorScope => [.text "push_error_scope", .text "Validation"]
  | .popErrorScope error => [.text "pop_error_scope", (error.map Json.text).getD .null]
  | .createShaderModule id label source => [.text "create_shader_module", .nat id,
      .record [("label", .text label), ("source", buffer source.toUTF8)]]
  | .createLayout id label entries => [.text "create_bind_group_layout", .nat id,
      .record [("label", .text label), ("entries", .list (entries.map layoutEntry))]]
  | .createPipelineLayout id label layouts => [.text "create_pipeline_layout", .nat id,
      .record [("label", .text label), ("layouts", nats layouts), ("push_constants", .nat 0)]]
  | .createPipeline id label layout vertex fragment format =>
    [.text "create_render_pipeline", .nat id, pipeline label layout vertex fragment format]
  | .createTexture id label size format role =>
    [.text "create_texture", .nat id, texture label size format role]
  | .createView id texture => [.text "create_view", .nat id,
      .record [("texture", .nat texture), ("default", .bool true)]]
  | .createBuffer id label role data => [.text "create_buffer", .nat id,
      .record [("label", .text label), ("usage", names (bufferUsage role)),
        ("contents", contents data)]]
  | .createSampler id label => [.text "create_sampler", .nat id, sampler label]
  | .createBindGroup id label layout entries => [.text "create_bind_group", .nat id,
      .record [("label", .text label), ("layout", .nat layout),
        ("entries", .list (entries.map bindGroupEntry))]]
  | .writeBuffer id data => [.text "write_buffer", .nat id, .nat 0, contents data]
  | .writeTexture id image => [.text "write_texture", .nat id, textureWrite image]
  | .acquireFrame answer => [.text "get_current_texture", .text (FrameAnswer.name answer)]
  | .createEncoder id label => [.text "create_command_encoder", .nat id, .text label]
  | .beginPass label color depth clear => [.text "begin_render_pass", pass label color depth clear]
  | .setViewport width height => [.text "set_viewport", viewport width height]
  | .setPipeline id => [.text "set_pipeline", .nat id]
  | .setBindGroup index id => [.text "set_bind_group", .nat index, .nat id, .list []]
  | .setVertexBuffer id => [.text "set_vertex_buffer", .nat 0, .nat id]
  | .setIndexBuffer id => [.text "set_index_buffer", .nat id, .text "Uint16"]
  | .drawIndexed count => [.text "draw_indexed", nats [0, count.toNat], .nat 0, nats [0, 1]]
  | .endPass => [.text "end_render_pass"]
  | .finishEncoder id => [.text "finish", .nat id]
  | .submit encoders => [.text "submit", nats encoders]
  | .present texture => [.text "present", .nat texture]

/-- A call. -/
def call (c : Call) : Json := .list (callItems c)

/-! ## The window system -/

/-- The written form of a call. -/
def screenCall : ScreenCall → Json
  | .waitForEvents => .list [.text "set_control_flow", .text "Wait"]
  | .createWindow title size => .list [.text "create_window", .text title, nats (sides size)]
  | .setTitle title => .list [.text "set_title", .text title]
  | .requestRedraw => .list [.text "request_redraw"]
  | .exit => .list [.text "exit"]
  | .gpu c => call c

end Trace
end ModelPreview
