import Mathlib
import ModelPreview.Gpu.Backend

/-!
# What actions on the graphics device emit

An action on the device does three things that can be seen from outside: it returns a value, it makes
some calls, and the objects it creates get numbers nobody has used before.  `Emits` says what values and
calls are possible, whatever the device answers; the numbers are right for every action, since this
holds of the single calls and is kept when actions follow each other.

Main definitions:

- `Gpu.Call.created?`: the object that a call creates.
- `Gpu.Numbered`: the numbers given out along some calls are new.
- `Gpu.Emits`: the values and calls of an action.
- `Gpu.State.Prepared`, `Gpu.State.Uploaded`, `Gpu.State.Drawn`: what setting up, uploading and
  drawing can do.

Main results:

- `Gpu.Emits.bind`: the calls of actions in a row.
- `Gpu.emits_init`, `Gpu.State.emits_reconfigure`, `Gpu.State.emits_upload`, `Gpu.State.emits_draw`:
  the actions of the backend.
-/

namespace ModelPreview
namespace Gpu

/-! ## Numbers of objects -/

theorem Counters.count_le_bump (c : Counters) (k k' : ResourceKind) :
    c.count k' ≤ (c.bump k).count k' := by
  by_cases hk : k' = k
  · subst hk
    rw [count_bump_self]
    exact Nat.le_succ _
  · exact (count_bump_of_ne c hk).ge

namespace Call

/-- The object that a call creates: its kind and its number. -/
def created? : Call → Option (ResourceKind × Nat)
  | createShaderModule id _ _ => some (.shader, id)
  | createLayout id _ _ => some (.layout, id)
  | createPipelineLayout id _ _ => some (.pipelineLayout, id)
  | createPipeline id _ _ _ _ _ => some (.pipeline, id)
  | createTexture id _ _ _ _ => some (.texture, id)
  | createView id _ => some (.view, id)
  | createBuffer id _ _ _ => some (.buffer, id)
  | createSampler id _ => some (.sampler, id)
  | createBindGroup id _ _ _ => some (.bindGroup, id)
  | createEncoder id _ => some (.encoder, id)
  | _ => none

/-- How a call sets the surface up. -/
def configured? : Call → Option SurfaceConfig
  | configure config => some config
  | _ => none

end Call

/-- The objects that calls create, in order. -/
def createdBy (calls : List Call) : List (ResourceKind × Nat) := calls.filterMap Call.created?

/-- The numbers given out along some calls are new: they lie between the numbers of objects before and
afterwards, and none is given out twice. -/
structure Numbered (before : Counters) (calls : List Call) (after : Counters) : Prop where
  le : ∀ k, before.count k ≤ after.count k
  fresh : ∀ k id, (k, id) ∈ createdBy calls → before.count k < id ∧ id ≤ after.count k
  nodup : (createdBy calls).Nodup

namespace Numbered

variable {c c' c'' : Counters} {xs ys : List Call}

theorem nil (c : Counters) : Numbered c [] c :=
  ⟨fun _ => Nat.le_refl _, by simp [createdBy], .nil⟩

theorem append (hxs : Numbered c xs c') (hys : Numbered c' ys c'') :
    Numbered c (xs ++ ys) c'' := by
  have hcreated : createdBy (xs ++ ys) = createdBy xs ++ createdBy ys := List.filterMap_append
  refine ⟨fun k => (hxs.le k).trans (hys.le k), ?_, ?_⟩
  · intro k id hmem
    rw [hcreated, List.mem_append] at hmem
    have hle := hxs.le k
    have hle' := hys.le k
    rcases hmem with hmem | hmem
    · have hfresh := hxs.fresh k id hmem
      omega
    · have hfresh := hys.fresh k id hmem
      omega
  · rw [hcreated, List.nodup_append]
    refine ⟨hxs.nodup, hys.nodup, ?_⟩
    rintro ⟨k, id⟩ hold _ hnew rfl
    have hlow := hxs.fresh k id hold
    have hhigh := hys.fresh k id hnew
    omega

/-- A call that creates nothing. -/
theorem single {call : Call} (h : call.created? = none) (hle : ∀ k, c.count k ≤ c'.count k) :
    Numbered c [call] c' := by
  have hnone : createdBy [call] = [] := by simp [createdBy, h]
  exact ⟨hle, by simp [hnone], by simp [hnone]⟩

/-- A call that creates the next object of its kind. -/
theorem created {call : Call} {k : ResourceKind} (h : call.created? = some (k, c.count k + 1)) :
    Numbered c [call] (c.bump k) := by
  have hone : createdBy [call] = [(k, c.count k + 1)] := by simp [createdBy, h]
  refine ⟨fun k' => c.count_le_bump k k', ?_, by simp [hone]⟩
  intro k' id hmem
  rw [hone, List.mem_singleton, Prod.mk.injEq] at hmem
  obtain ⟨rfl, rfl⟩ := hmem
  rw [Counters.count_bump_self]
  omega
end Numbered

/-! ## Values and calls of an action -/

/-- The calls made between two states of the device. -/
structure Issues (d : Device) (new : List Call) (d' : Device) : Prop where
  calls : d'.calls.toList = d.calls.toList ++ new
  numbered : Numbered d.counters new d'.counters

/-- Whatever the state of the device and its environment, the action returns a value and makes calls
that fit each other. -/
def Emits {α : Type} (action : DeviceM α) (P : α → List Call → Prop) : Prop :=
  ∀ d : Device, ∃ new,
    Issues d new (action.run d).value.2 ∧ P (action.run d).value.1 new

section Rules

variable {α β : Type} {P : α → List Call → Prop} {Q : β → List Call → Prop}

theorem Emits.mono {P' : α → List Call → Prop} {action : DeviceM α} (h : Emits action P')
    (himp : ∀ a calls, P' a calls → P a calls) : Emits action P := by
  intro d
  obtain ⟨new, hissues, hP⟩ := h d
  exact ⟨new, hissues, himp _ _ hP⟩

theorem emits_pure {a : α} (h : P a []) : Emits (pure a) P :=
  fun _ => ⟨[], ⟨(List.append_nil _).symm, .nil _⟩, h⟩

/-- The calls of actions in a row follow each other. -/
theorem Emits.bind {x : DeviceM α} {f : α → DeviceM β} (hx : Emits x P)
    (hf : ∀ a xs, P a xs → Emits (f a) fun b ys => Q b (xs ++ ys)) : Emits (x >>= f) Q := by
  intro d
  obtain ⟨xs, hxs, hP⟩ := hx d
  obtain ⟨ys, hys, hQ⟩ := hf _ xs hP (x.run d).value.2
  refine ⟨xs ++ ys, ⟨?_, hxs.numbered.append hys.numbered⟩, hQ⟩
  calc ((f (x.run d).value.1).run (x.run d).value.2).value.2.calls.toList
      = (x.run d).value.2.calls.toList ++ ys := hys.calls
    _ = d.calls.toList ++ (xs ++ ys) := by rw [hxs.calls, List.append_assoc]

/-- Logging makes no calls. -/
theorem emits_log {x : Logged α} (h : P x.value []) : Emits (liftM x) P :=
  fun _ => ⟨[], ⟨(List.append_nil _).symm, .nil _⟩, h⟩

theorem emits_get {P : Device → List Call → Prop} (h : ∀ d, P d []) : Emits get P :=
  fun d => ⟨[], ⟨(List.append_nil _).symm, .nil _⟩, h d⟩

theorem emits_record {P : Unit → List Call → Prop} {call : Call} (hnone : call.created? = none)
    (h : P () [call]) : Emits (record call) P :=
  fun _ => ⟨[call], ⟨Array.toList_push, .single hnone fun _ => Nat.le_refl _⟩, h⟩

theorem emits_create {P : Nat → List Call → Prop} {kind : ResourceKind} {call : Nat → Call}
    (hsome : ∀ id, (call id).created? = some (kind, id)) (h : ∀ id, P id [call id]) :
    Emits (create kind call) P :=
  fun d => ⟨[call (d.counters.count kind + 1)], ⟨Array.toList_push, .created (hsome _)⟩, h _⟩

theorem emits_popErrorScope {P : Option String → List Call → Prop}
    (h : ∀ error, P error [.popErrorScope error]) : Emits popErrorScope P :=
  fun d => ⟨[.popErrorScope d.environment.scopes.head?.join],
    ⟨Array.toList_push, .single rfl fun _ => Nat.le_refl _⟩, h _⟩

/-! The single calls, each followed by the rest of an action. -/

theorem emits_log_bind {x : Logged α} {f : α → DeviceM β} (h : Emits (f x.value) Q) :
    Emits (liftM x >>= f) Q :=
  (emits_log (P := fun a calls => a = x.value ∧ calls = []) ⟨rfl, rfl⟩).bind fun _ _ hx => by
    rw [hx.1, hx.2]
    exact h

theorem emits_record_bind {call : Call} {f : Unit → DeviceM β} (hnone : call.created? = none)
    (h : Emits (f ()) fun b ys => Q b (call :: ys)) : Emits (record call >>= f) Q :=
  (emits_record (P := fun _ calls => calls = [call]) hnone rfl).bind fun _ _ hcalls => by
    rw [hcalls]
    exact h

theorem emits_create_bind {kind : ResourceKind} {call : Nat → Call} {f : Nat → DeviceM β}
    (hsome : ∀ id, (call id).created? = some (kind, id))
    (h : ∀ id, Emits (f id) fun b ys => Q b (call id :: ys)) :
    Emits (create kind call >>= f) Q :=
  (emits_create (P := fun id calls => calls = [call id]) hsome fun _ => rfl).bind
    fun id _ hcalls => by
      rw [hcalls]
      exact h id

theorem emits_popErrorScope_bind {f : Option String → DeviceM β}
    (h : ∀ error, Emits (f error) fun b ys => Q b (.popErrorScope error :: ys)) :
    Emits (popErrorScope >>= f) Q :=
  (emits_popErrorScope (P := fun error calls => calls = [.popErrorScope error]) fun _ => rfl).bind
    fun error _ hcalls => by
      rw [hcalls]
      exact h error

end Rules

/-! ## Setting up -/

/-- The calls that create the texture of the depths and its view. -/
def depthCalls (size : Extent) (texture view : Nat) : List Call :=
  [.createTexture texture "Depth Texture" size depthFormat .attachment, .createView view texture]

theorem emits_createDepth (size : Extent) :
    Emits (createDepth size) fun view calls => ∃ texture, calls = depthCalls size texture view :=
  emits_create_bind (fun _ => rfl) fun texture =>
    emits_create (fun _ => rfl) fun _ => ⟨texture, rfl⟩

/-- Nothing in some calls sets the surface up. -/
def Configless (calls : List Call) : Prop := calls.filterMap Call.configured? = []

theorem emits_openDevice (size : Extent) :
    Emits (openDevice size) fun result calls =>
      Configless calls ∧ ∀ config, result = .ok config → config.size = size.atLeastOne := by
  refine Emits.bind (P := fun _ calls => calls = []) (emits_get fun _ => rfl) ?_
  rintro d _ rfl
  refine emits_record_bind rfl (emits_record_bind rfl ?_)
  cases d.environment.surfaceError with
  | some text => exact emits_pure ⟨rfl, fun _ h => nomatch h⟩
  | none =>
  refine emits_record_bind rfl ?_
  cases d.environment.adapter with
  | none => exact emits_pure ⟨rfl, fun _ h => nomatch h⟩
  | some name =>
  refine emits_log_bind (emits_record_bind rfl ?_)
  cases d.environment.deviceError with
  | some text => exact emits_pure ⟨rfl, fun _ h => nomatch h⟩
  | none =>
  refine emits_record_bind rfl ?_
  cases chooseFormat? d.environment.formats with
  | none => exact emits_pure ⟨rfl, fun _ h => nomatch h⟩
  | some format =>
    refine emits_pure ⟨rfl, ?_⟩
    rintro _ ⟨⟩
    rfl

/-! Compiling and linking may fail, but neither touches the surface. -/

theorem Configless.append {xs ys : List Call} (hxs : Configless xs) (hys : Configless ys) :
    Configless (xs ++ ys) := by
  unfold Configless at *
  rw [List.filterMap_append, hxs, hys]
  rfl

theorem emits_compileStage (stage : ShaderStage) (source : String) :
    Emits (compileStage stage source) fun _ calls => Configless calls := by
  refine emits_record_bind rfl (emits_create_bind (fun _ => rfl) fun id => ?_)
  refine emits_popErrorScope_bind fun error => ?_
  cases error with
  | none => exact emits_pure rfl
  | some log => exact emits_log_bind (emits_pure rfl)

theorem emits_linkProgram (vertex fragment : Nat) (format : TextureFormat) :
    Emits (linkProgram vertex fragment format) fun _ calls => Configless calls := by
  refine emits_create_bind (fun _ => rfl) fun camera => ?_
  refine emits_create_bind (fun _ => rfl) fun texture => ?_
  refine emits_create_bind (fun _ => rfl) fun layout => emits_record_bind rfl ?_
  refine emits_create_bind (fun _ => rfl) fun pipeline => ?_
  refine emits_popErrorScope_bind fun error => ?_
  cases error with
  | none => exact emits_log_bind (emits_pure rfl)
  | some log => exact emits_log_bind (emits_pure rfl)

theorem emits_compile (vertexText fragmentText : String) (format : TextureFormat) :
    Emits (Program.compile vertexText fragmentText format) fun _ calls => Configless calls := by
  refine (emits_compileStage .vertex vertexText).bind fun vertex xs hxs => ?_
  cases vertex with
  | error e => exact emits_pure (hxs.append rfl)
  | ok vertex =>
  refine (emits_compileStage .fragment fragmentText).bind fun fragment ys hys => ?_
  cases fragment with
  | error e => exact emits_pure (hxs.append (hys.append rfl))
  | ok fragment =>
    exact (emits_linkProgram vertex fragment format).mono
      fun _ zs hzs => hxs.append (hys.append hzs)

/-- What is true of a device that has just been set up for a window of some size: there is no model,
the surface was set up once, and the depths have its size. -/
structure State.Prepared (size : Extent) (s : State) (calls : List Call) : Prop where
  mesh : s.mesh = none
  size : s.config.size = size.atLeastOne
  configured : calls.filterMap Call.configured? = [s.config]
  depth : ∃ texture, depthCalls s.config.size texture s.depthView ⊆ calls

theorem emits_createResources (config : SurfaceConfig) (program : Program) :
    Emits (createResources config program) fun s calls =>
      s.mesh = none ∧ s.config = config ∧ Configless calls ∧
        ∃ texture, depthCalls config.size texture s.depthView ⊆ calls := by
  refine (emits_createDepth config.size).bind ?_
  rintro view _ ⟨texture, rfl⟩
  refine emits_create_bind (fun _ => rfl) fun cameraBuffer => ?_
  refine emits_create_bind (fun _ => rfl) fun cameraGroup => ?_
  refine emits_create_bind (fun _ => rfl) fun sampler => emits_log_bind (emits_pure ?_)
  exact ⟨rfl, rfl, rfl, texture, List.subset_append_left _ _⟩

/-- Setting up either fails or leaves everything as a frame needs it. -/
theorem emits_init (size : Extent) :
    Emits (init size) fun result calls => ∀ s, result = .ok s → s.Prepared size calls := by
  refine (emits_openDevice size).bind fun config xs hopen => ?_
  obtain ⟨hxs, hsize⟩ := hopen
  cases config with
  | error e => exact emits_pure fun _ h => nomatch h
  | ok config =>
  refine emits_record_bind rfl
    ((emits_compile vertexSource fragmentSource config.format).bind fun program ys hys => ?_)
  cases program with
  | error e => exact emits_pure fun _ h => nomatch h
  | ok program =>
    refine (emits_createResources config program).bind fun s zs hzs => emits_pure ?_
    obtain ⟨hmesh, rfl, hnone, texture, hdepth⟩ := hzs
    rintro _ ⟨⟩
    refine ⟨hmesh, hsize _ rfl, ?_, texture, ?_⟩
    · have hrest := hys.append hnone
      unfold Configless at hxs hrest
      simp [List.filterMap_append, hxs, hrest, Call.configured?]
    · intro c hc
      simp [hdepth hc]

namespace State

variable (s : State)

/-- A surface that is set up again gets depths of its size. -/
theorem emits_reconfigure :
    Emits s.reconfigure fun s' calls => ∃ texture view,
      s' = { s with depthView := view } ∧
        calls = .configure s.config :: depthCalls s.config.size texture view := by
  refine emits_record_bind rfl ((emits_createDepth s.config.size).bind ?_)
  rintro view _ ⟨texture, rfl⟩
  exact emits_pure ⟨texture, view, rfl, rfl⟩

/-! ## The model -/

/-- The calls that create the buffers of a mesh. -/
def bufferCalls (mesh : Mesh) (atlas : Atlas) (b : MeshBuffers) (texture view : Nat) : List Call := [
  .createBuffer b.vertexBuffer "Model Vertex Buffer" .vertex
    (.numbers (mesh.vertices.toList.flatMap Vertex.toNumbers)),
  .createBuffer b.indexBuffer "Model Index Buffer" .index (.indices mesh.indices),
  .createTexture texture atlasLabel ⟨atlas.image.width, atlas.image.height⟩ .rgba8UnormSrgb .sampled,
  .writeTexture texture atlas.image,
  .createView view texture,
  .createBindGroup b.atlasGroup "Atlas Bind Group" s.program.textureLayout
    [(0, .view view), (1, .sampler s.sampler)]]

/-- What an upload can do: an empty mesh only takes the model away, any other one gets new buffers. -/
inductive Uploaded (mesh : Mesh) (atlas : Atlas) : State → List Call → Prop where
  | cleared (h : mesh.isEmpty = true) : Uploaded mesh atlas { s with mesh := none } []
  | replaced (h : mesh.isEmpty = false) (b : MeshBuffers)
      (hcount : b.indexCount = mesh.indices.size.toUInt32) (texture view : Nat) :
    Uploaded mesh atlas { s with mesh := some b } (s.bufferCalls mesh atlas b texture view)

theorem emits_upload (mesh : Mesh) (atlas : Atlas) :
    Emits (s.upload mesh atlas) (s.Uploaded mesh atlas) := by
  unfold upload
  cases hempty : mesh.isEmpty with
  | true => exact emits_pure (.cleared hempty)
  | false =>
    refine Emits.bind (P := fun b calls => b.indexCount = mesh.indices.size.toUInt32 ∧
      ∃ texture view, calls = s.bufferCalls mesh atlas b texture view) ?_ ?_
    · refine emits_create_bind (fun _ => rfl) fun vertexBuffer => ?_
      refine emits_create_bind (fun _ => rfl) fun indexBuffer => ?_
      refine emits_create_bind (fun _ => rfl) fun texture => emits_record_bind rfl ?_
      refine emits_create_bind (fun _ => rfl) fun view => ?_
      refine emits_create_bind (fun _ => rfl) fun atlasGroup => emits_pure ?_
      exact ⟨rfl, texture, view, rfl⟩
    · rintro b _ ⟨hcount, texture, view, rfl⟩
      exact emits_pure (.replaced hempty b hcount texture view)

end State

/-! ## Frames -/

/-- What an attempt to get a frame was answered. -/
def answerOf : Except FrameError Nat → FrameAnswer
  | .ok _ => none
  | .error e => some e

/-- A frame is a texture that no call creates. -/
theorem emits_acquireFrame :
    Emits acquireFrame fun result calls => calls = [.acquireFrame (answerOf result)] := by
  intro d
  cases hanswer : d.environment.frames.head?.join with
  | some e =>
    have hvalue : (acquireFrame.run d).value = (.error e, { d with
        environment := { d.environment with frames := d.environment.frames.tail }
        calls := d.calls.push (.acquireFrame (some e)) }) := by
      simp [acquireFrame, hanswer]
    rw [hvalue]
    exact ⟨_, ⟨Array.toList_push, .single rfl fun _ => Nat.le_refl _⟩, rfl⟩
  | none =>
    have hvalue : (acquireFrame.run d).value = (.ok (d.counters.count .texture + 1), { d with
        environment := { d.environment with frames := d.environment.frames.tail }
        calls := d.calls.push (.acquireFrame none)
        counters := d.counters.bump .texture }) := by
      simp [acquireFrame, hanswer]
    rw [hvalue]
    exact ⟨_, ⟨Array.toList_push, .single rfl (d.counters.count_le_bump .texture)⟩, rfl⟩

/-- Whether a surface has to be set up again before it gives frames. -/
def Stale : FrameError → Prop
  | .lost | .outdated => True
  | .timeout | .outOfMemory => False

namespace State

variable (s : State)

/-- What asking for the next frame can do: the first answer counts, unless the surface is lost or
outdated; then it is set up again and the second answer counts. -/
inductive Acquired : State × Except FrameError Nat → List Call → Prop where
  | first (result : Except FrameError Nat) (h : ∀ e, result = .error e → ¬ Stale e) :
    Acquired (s, result) [.acquireFrame (answerOf result)]
  | again (e : FrameError) (h : Stale e) (texture view : Nat) (result : Except FrameError Nat) :
    Acquired ({ s with depthView := view }, result)
      (.acquireFrame (some e) :: .configure s.config :: depthCalls s.config.size texture view ++
        [.acquireFrame (answerOf result)])

theorem emits_acquire : Emits s.acquire s.Acquired := by
  have hagain : ∀ e, Stale e → Emits (do
      Logged.debug "Surface lost or outdated, reconfiguring"
      let s ← s.reconfigure
      return (s, ← acquireFrame)) fun r calls => s.Acquired r (.acquireFrame (some e) :: calls) := by
    intro e hstale
    refine emits_log_bind (s.emits_reconfigure.bind ?_)
    rintro _ _ ⟨texture, view, rfl, rfl⟩
    refine emits_acquireFrame.bind ?_
    rintro result _ rfl
    exact emits_pure (.again e hstale texture view result)
  refine emits_acquireFrame.bind ?_
  rintro (e | frame) _ rfl
  · cases e with
    | timeout => exact emits_pure (.first _ (by rintro _ ⟨⟩; exact id))
    | outOfMemory => exact emits_pure (.first _ (by rintro _ ⟨⟩; exact id))
    | lost => exact hagain .lost trivial
    | outdated => exact hagain .outdated trivial
  · exact emits_pure (.first _ fun _ h => nomatch h)

/-- The calls that draw the model, if there is one. -/
def modelCalls : List Call :=
  match s.mesh with
  | none => []
  | some b => [
    .setPipeline s.program.pipeline,
    .setBindGroup 0 s.cameraGroup,
    .setBindGroup 1 b.atlasGroup,
    .setVertexBuffer b.vertexBuffer,
    .setIndexBuffer b.indexBuffer,
    .drawIndexed b.indexCount]

/-- The calls that end a frame and show it. -/
def endCalls (frame encoder : Nat) : List Call :=
  [.endPass, .finishEncoder encoder, .submit [encoder], .present frame]

/-- The call that has the whole surface drawn into. -/
def viewportCall : Call :=
  .setViewport (Binary.ofWord s.config.size.width) (Binary.ofWord s.config.size.height)

/-- The calls that draw into a frame and show it. -/
def frameCalls (clear : Color) (frame view encoder : Nat) : List Call :=
  .createView view frame :: .createEncoder encoder "Render Encoder" ::
    .beginPass "Model Render Pass" view s.depthView clear :: s.viewportCall ::
    (s.modelCalls ++ endCalls frame encoder)

theorem emits_drawMesh {b : MeshBuffers} (h : s.mesh = some b) :
    Emits (s.drawMesh b) fun _ calls => calls = s.modelCalls := by
  unfold modelCalls
  rw [h]
  refine emits_record_bind rfl (emits_record_bind rfl (emits_record_bind rfl ?_))
  exact emits_record_bind rfl (emits_record_bind rfl (emits_record rfl rfl))

theorem emits_drawFrame (clear : Color) (frame : Nat) :
    Emits (s.drawFrame clear frame) fun n calls => ∃ view encoder,
      n = (if s.mesh.isSome then 1 else 0) ∧ calls = s.frameCalls clear frame view encoder := by
  refine emits_create_bind (fun _ => rfl) fun view => ?_
  refine emits_create_bind (fun _ => rfl) fun encoder => ?_
  refine emits_record_bind rfl (emits_record_bind rfl ?_)
  have hend : Emits (do
      record .endPass
      record (.finishEncoder encoder)
      record (.submit [encoder])
      record (.present frame)
      return if s.mesh.isSome then 1 else 0) fun n calls =>
        n = (if s.mesh.isSome then 1 else 0) ∧ calls = endCalls frame encoder :=
    emits_record_bind rfl (emits_record_bind rfl (emits_record_bind rfl (emits_record_bind rfl
      (emits_pure ⟨rfl, rfl⟩))))
  cases hmesh : s.mesh with
  | some b =>
    refine (s.emits_drawMesh hmesh).bind ?_
    rintro _ _ rfl
    rw [hmesh] at hend
    refine hend.mono ?_
    rintro n _ ⟨hn, rfl⟩
    exact ⟨view, encoder, hn, rfl⟩
  | none =>
    have hnone : s.modelCalls = [] := by simp [modelCalls, hmesh]
    rw [hmesh] at hend
    refine hend.mono ?_
    rintro n _ ⟨hn, rfl⟩
    exact ⟨view, encoder, hn, by rw [frameCalls, viewportCall, hnone, List.nil_append]⟩

/-- What drawing can do: there is no frame, or the model is drawn into one and shown. -/
inductive Drawn (clear : Color) (camera : Camera) :
    State × Except RenderError Nat → List Call → Prop where
  | refused {s' : State} (e : FrameError) {calls : List Call}
      (hacquired : s.Acquired (s', .error e) calls) :
    Drawn clear camera (s', .error (.surface e))
      (.writeBuffer s.cameraBuffer (.numbers camera.viewProjection.toList) :: calls)
  | shown {s' : State} (frame : Nat) {calls : List Call}
      (hacquired : s.Acquired (s', .ok frame) calls) (view encoder : Nat) :
    Drawn clear camera (s', .ok (if s'.mesh.isSome then 1 else 0))
      (.writeBuffer s.cameraBuffer (.numbers camera.viewProjection.toList) ::
        (calls ++ s'.frameCalls clear frame view encoder))

theorem emits_draw (clear : Color) (camera : Camera) :
    Emits (s.draw clear camera) (s.Drawn clear camera) := by
  refine emits_record_bind rfl (s.emits_acquire.bind ?_)
  rintro ⟨s', e | frame⟩ calls hacquired
  · refine emits_pure ?_
    rw [List.append_nil]
    exact .refused e hacquired
  · refine (s'.emits_drawFrame clear frame).bind ?_
    rintro n _ ⟨view, encoder, rfl, rfl⟩
    refine emits_pure ?_
    rw [List.append_nil]
    exact .shown frame hacquired view encoder

end State
end Gpu
end ModelPreview
