import Mathlib
import ModelPreview.Proofs.Collections
import ModelPreview.Proofs.Gpu.History
import ModelPreview.Proofs.Number.Arithmetic

/-!
# Frames show the model that was uploaded

The surface, the depths and the viewport are set in different places: when the device is set up, when
the window changes its size, and when a surface is lost in the middle of drawing.  Still the three
agree whenever a frame is drawn, the viewport as far as single precision can, and the frame shows the
model of the last upload and nothing older.

Main definitions:

- `Gpu.config?`: how the surface is set up after some calls.
- `Gpu.passDraws`: what the draw calls among some calls read.
- `Gpu.lastUpload?`: the last upload since the device was set up.
- `Gpu.PassesFit`: every pass has depths of the size of the surface and a viewport that stands for it.
- `Gpu.State.Targets`, `Gpu.Shown`, `Gpu.History.Consistent`: the invariant of a history.
- `Gpu.FrameOf`: what a draw has to be.

Main results:

- `Gpu.History.Consistent.step`, `Gpu.History.consistent_run`: the invariant holds in every history.
- `Gpu.History.step_upload_draw`: a mesh that is uploaded is drawn into the next frame.
- `Gpu.History.frames_follow_uploads`: the same from outside, for every use of every history.
- `Gpu.History.sizes_not_kept`: a size or a number of indices that its word cannot hold is not kept.
-/

namespace ModelPreview
namespace Gpu

/-! ## The surface and its depths -/

/-- How the surface is set up after some calls. -/
def config? (calls : List Call) : Option SurfaceConfig :=
  (calls.filterMap Call.configured?).getLast?

/-- Some view shows depths of a size. -/
def DepthsOf (size : Extent) (view : Nat) (calls : List Call) : Prop :=
  ∃ texture, depthCalls size texture view ⊆ calls

variable {xs ys : List Call}

theorem DepthsOf.append {size : Extent} {view : Nat} (h : DepthsOf size view xs) (ys : List Call) :
    DepthsOf size view (xs ++ ys) :=
  h.imp fun _ hsub => List.Subset.trans hsub (List.subset_append_left _ _)

theorem config?_append_of_configless (h : Configless ys) : config? (xs ++ ys) = config? xs := by
  unfold Configless at h
  rw [config?, config?, List.filterMap_append, h, List.append_nil]

theorem config?_append_of_single {config : SurfaceConfig}
    (h : ys.filterMap Call.configured? = [config]) : config? (xs ++ ys) = some config := by
  rw [config?, List.filterMap_append, h, List.getLast?_concat]

/-- After some calls, surface and depths are as the state says. -/
structure State.Targets (s : State) (calls : List Call) : Prop where
  config : config? calls = some s.config
  depth : DepthsOf s.config.size s.depthView calls

namespace State

variable {s s' : State}

theorem Targets.append (h : s.Targets xs) (hys : Configless ys) : s.Targets (xs ++ ys) :=
  ⟨(config?_append_of_configless hys).trans h.config, h.depth.append ys⟩

theorem Targets.withMesh (h : s.Targets xs) (mesh : Option MeshBuffers) :
    State.Targets { s with mesh := mesh } xs :=
  ⟨h.config, h.depth⟩

/-- Setting the surface up again makes everything fit. -/
theorem targets_reconfigured (s : State) (texture view : Nat) (xs : List Call) :
    State.Targets { s with depthView := view }
      (xs ++ .configure s.config :: depthCalls s.config.size texture view) := by
  refine ⟨config?_append_of_single rfl, texture, fun c hc => ?_⟩
  exact List.mem_append_right _ (List.mem_cons_of_mem _ hc)

theorem Prepared.targets {size : Extent} (h : s.Prepared size ys) (xs : List Call) :
    s.Targets (xs ++ ys) :=
  ⟨config?_append_of_single h.configured,
    h.depth.imp fun _ hsub => List.Subset.trans hsub (List.subset_append_right _ _)⟩

theorem Acquired.targets {result : Except FrameError Nat} (h : s.Acquired (s', result) ys)
    (hs : s.Targets xs) : s'.Targets (xs ++ ys) := by
  cases h with
  | first _ hfresh => exact hs.append rfl
  | again e hstale texture view _ =>
    have hagain := targets_reconfigured s texture view (xs ++ [.acquireFrame (some e)])
    have hlast : Configless [.acquireFrame (answerOf result)] := rfl
    simpa using hagain.append hlast

theorem Acquired.mesh_eq {result : Except FrameError Nat} (h : s.Acquired (s', result) ys) :
    s'.mesh = s.mesh := by
  cases h with
  | first _ hfresh => rfl
  | again e hstale texture view _ => rfl

theorem configless_modelCalls (s : State) : Configless s.modelCalls := by
  unfold modelCalls
  cases s.mesh with
  | none => rfl
  | some b => rfl

theorem configless_frameCalls (s : State) (clear : Color) (frame view encoder : Nat) :
    Configless (s.frameCalls clear frame view encoder) := by
  have hstart : Configless [.createView view frame, .createEncoder encoder "Render Encoder",
    .beginPass "Model Render Pass" view s.depthView clear, s.viewportCall] := rfl
  exact hstart.append (s.configless_modelCalls.append rfl)

theorem Drawn.targets {clear : Color} {camera : Camera} {answer : Except RenderError Nat}
    (h : s.Drawn clear camera (s', answer) ys) (hs : s.Targets xs) : s'.Targets (xs ++ ys) := by
  have hwritten : s.Targets (xs ++
    [.writeBuffer s.cameraBuffer (.numbers camera.viewProjection.toList)]) := hs.append rfl
  cases h with
  | refused e hacquired => simpa using hacquired.targets hwritten
  | shown frame hacquired view encoder =>
    have hframe := (hacquired.targets hwritten).append
      (s'.configless_frameCalls clear frame view encoder)
    simpa using hframe

theorem Drawn.mesh_eq {clear : Color} {camera : Camera} {answer : Except RenderError Nat}
    (h : s.Drawn clear camera (s', answer) ys) : s'.mesh = s.mesh := by
  cases h with
  | refused e hacquired => exact hacquired.mesh_eq
  | shown frame hacquired view encoder => exact hacquired.mesh_eq

end State

/-! ## What draw calls read -/

/-- What is bound while a pass goes on. -/
structure Bound where
  /-- The vertices. -/
  vertexBuffer : Option Nat := none
  /-- The indices. -/
  indexBuffer : Option Nat := none
  /-- The group of the atlas. -/
  atlasGroup : Option Nat := none

/-- What is bound after a call; a pass starts with nothing. -/
def Bound.after (b : Bound) : Call → Bound
  | .beginPass _ _ _ _ => {}
  | .setVertexBuffer id => { b with vertexBuffer := some id }
  | .setIndexBuffer id => { b with indexBuffer := some id }
  | .setBindGroup 1 id => { b with atlasGroup := some id }
  | _ => b

/-- What the draw calls among some calls read, each with its number of indices. -/
def passDraws (b : Bound) : List Call → List (Bound × UInt32)
  | [] => []
  | .drawIndexed count :: calls => (b, count) :: passDraws b calls
  | call :: calls => passDraws (b.after call) calls

/-! ## The last upload -/

/-- An upload that succeeded. -/
structure Upload where
  /-- The mesh. -/
  mesh : Mesh
  /-- The atlas. -/
  atlas : Atlas
  /-- The calls to the device. -/
  calls : List Call

/-- The last upload after one more use.  A set-up starts over, unless there was nothing to do. -/
def noteUpload (last : Option Upload) (e : Entry) : Option Upload :=
  match e.call with
  | .setup _ (.ok _) => if e.calls.isEmpty then last else none
  | .upload mesh atlas (.ok _) => some ⟨mesh, atlas, e.calls⟩
  | _ => last

/-- The last upload since the device was set up. -/
def lastUpload? (entries : List Entry) : Option Upload := entries.foldl noteUpload none

theorem lastUpload?_concat (entries : List Entry) (e : Entry) :
    lastUpload? (entries ++ [e]) = noteUpload (lastUpload? entries) e :=
  List.foldl_concat _ _ _ _

/-- Some buffers were created by an upload. -/
def Upload.Created (u : Upload) (b : MeshBuffers) : Prop :=
  b.indexCount = u.mesh.indices.size.toUInt32 ∧
    ∃ (s : State) (texture view : Nat), u.calls = s.bufferCalls u.mesh u.atlas b texture view

/-- The buffers that are there after the last upload. -/
inductive Shown : Option Upload → Option MeshBuffers → Prop where
  | nothing : Shown none none
  | empty {u : Upload} (h : u.mesh.isEmpty = true) : Shown (some u) none
  | model {u : Upload} {b : MeshBuffers} (h : u.mesh.isEmpty = false) (hcreated : u.Created b) :
    Shown (some u) (some b)

/-! ## The invariant -/

/-- The state agrees with what has been done. -/
structure State.Fits (s : State) (entries : List Entry) : Prop where
  targets : s.Targets (log entries)
  shown : Shown (lastUpload? entries) s.mesh

/-- A use keeps the state in agreement with what has been done. -/
theorem Moves.fits {state state' : Option State} {call : BackendCall} {calls : List Call}
    {entries : List Entry} (h : Moves state call calls state')
    (hfits : ∀ s, state = some s → s.Fits entries) (s' : State) (hs' : state' = some s') :
    s'.Fits (entries ++ [⟨call, calls⟩]) := by
  have hlog : log (entries ++ [⟨call, calls⟩]) = log entries ++ calls := by simp [log]
  suffices hboth : s'.Targets (log entries ++ calls) ∧
      Shown (noteUpload (lastUpload? entries) ⟨call, calls⟩) s'.mesh from
    ⟨hlog ▸ hboth.1, lastUpload?_concat entries _ ▸ hboth.2⟩
  cases h with
  | setupAgain s size =>
    obtain rfl := Option.some.inj hs'
    exact ⟨(hfits s rfl).targets.append rfl, (hfits s rfl).shown⟩
  | setupFailed size e calls => exact nomatch hs'
  | @setupDone s size calls hprepared =>
    obtain rfl := Option.some.inj hs'
    have hcalls : calls ≠ [] := by
      rintro rfl
      exact nomatch hprepared.configured
    refine ⟨hprepared.targets _, ?_⟩
    simpa [noteUpload, hcalls, hprepared.mesh] using Shown.nothing
  | notResized size => exact nomatch hs'
  | resizeIgnored s hempty =>
    obtain rfl := Option.some.inj hs'
    exact ⟨(hfits s rfl).targets.append rfl, (hfits s rfl).shown⟩
  | @resized s size hsize texture view =>
    obtain rfl := Option.some.inj hs'
    exact ⟨State.targets_reconfigured { s with config := { s.config with size := size } }
      texture view _, (hfits s rfl).shown⟩
  | notUploaded mesh atlas => exact nomatch hs'
  | @uploaded s _ mesh atlas _ huploaded =>
    obtain rfl := Option.some.inj hs'
    cases huploaded with
    | cleared hempty =>
      exact ⟨((hfits s rfl).targets.withMesh none).append rfl, .empty hempty⟩
    | replaced hempty b hcount texture view =>
      exact ⟨((hfits s rfl).targets.withMesh (some b)).append rfl,
        .model hempty ⟨hcount, s, texture, view, rfl⟩⟩
  | notDrawn camera => exact nomatch hs'
  | @drawn s _ clear camera answer _ hdrawn =>
    obtain rfl := Option.some.inj hs'
    refine ⟨hdrawn.targets (hfits s rfl).targets, ?_⟩
    rw [hdrawn.mesh_eq]
    exact (hfits s rfl).shown
  | released state => exact nomatch hs'

/-- What is true of every history: all objects have different numbers, and the state agrees with what
has been done. -/
structure History.Consistent (h : History) : Prop where
  numbered : Numbered {} (log h.entries) h.backend.device.counters
  fits : ∀ s, h.backend.state = some s → s.Fits h.entries

namespace History

theorem consistent_start (clear : Color) : Consistent ⟨.unused clear, []⟩ :=
  ⟨.nil _, fun _ h => nomatch h⟩

/-- One use keeps a history consistent. -/
theorem Consistent.step {h : History} (hc : h.Consistent) (request : Environment × BackendOp) :
    (h.step request).Consistent := by
  have hperformed := h.backend.performed_perform request.1 request.2
  refine ⟨?_, hperformed.moves.fits hc.fits⟩
  have hnumbered := hc.numbered.append hperformed.numbered
  simpa [History.step, log] using hnumbered

theorem consistent_run (clear : Color) (requests : List (Environment × BackendOp)) :
    (run ⟨.unused clear, []⟩ requests).Consistent := by
  induction requests using List.reverseRecOn with
  | nil => exact consistent_start clear
  | append_singleton requests request ih =>
    rw [run, List.foldl_concat]
    exact ih.step request

end History

/-! ## Frames -/

namespace Call

/-- Whether a call starts a pass. -/
def isPass : Call → Bool
  | beginPass _ _ _ _ => true
  | _ => false

/-- Whether a call draws triangles. -/
def isDraw : Call → Bool
  | drawIndexed _ => true
  | _ => false

/-- Whether a call has commands carried out. -/
def isSubmit : Call → Bool
  | submit _ => true
  | _ => false

/-- Whether a call shows a frame. -/
def isPresent : Call → Bool
  | present _ => true
  | _ => false

/-- Whether a call draws into a frame or shows it. -/
def IsFrameWork (c : Call) : Prop := c.isPass ∨ c.isDraw ∨ c.isSubmit ∨ c.isPresent

/-- Width and height of the part of the frame a call draws into. -/
def viewport? : Call → Option (Float32 × Float32)
  | setViewport width height => some (width, height)
  | _ => none

end Call

/-- A number stands for a side of a surface: it is the nearest value, and it is the side itself unless
the side is longer than `2 ^ 24`. -/
structure StandsFor (side : UInt32) (x : Float32) : Prop where
  nearest : HasValue x (Binary.single.nearest side.toNat)
  exact : side.toNat ≤ 2 ^ 24 → HasValue x side.toNat

theorem standsFor_ofWord (side : UInt32) : StandsFor side (Binary.ofWord side) :=
  ⟨hasValue_ofWord side, hasValue_ofWord_of_le⟩

/-- Every pass has depths of the size for which the surface was set up last, and one viewport, whose
width and height stand for the sides of this size. -/
def PassesFit (before calls : List Call) : Prop :=
  ∀ xs label color depth clear ys, calls = xs ++ .beginPass label color depth clear :: ys →
    ∃ config, config? (before ++ xs) = some config ∧ DepthsOf config.size depth (before ++ xs) ∧
      (∃ width height, ys.filterMap Call.viewport? = [(width, height)] ∧
        StandsFor config.size.width width ∧ StandsFor config.size.height height) ∧
      Configless ys

/-- The draw calls that show the last upload: one over all its indices, or none for an empty mesh.
Indices are counted by a 32-bit word. -/
inductive Draws : Option Upload → List (Bound × UInt32) → Prop where
  | nothing : Draws none []
  | empty {u : Upload} (h : u.mesh.isEmpty = true) : Draws (some u) []
  | model {u : Upload} {b : MeshBuffers} {n : UInt32} (h : u.mesh.isEmpty = false)
      (hcreated : u.Created b) (hcount : n.toNat = u.mesh.indices.size % 2 ^ 32) :
    Draws (some u) [(⟨some b.vertexBuffer, some b.indexBuffer, some b.atlasGroup⟩, n)]

/-- A frame is drawn in one pass, submitted and shown once, and shows the last upload; its draw calls
are counted. -/
structure FrameOf (last : Option Upload) (calls : List Call) (n : Nat) : Prop where
  draws : Draws last (passDraws {} calls)
  count : (passDraws {} calls).length = n
  passes : calls.countP Call.isPass = 1
  submits : calls.countP Call.isSubmit = 1
  presents : calls.countP Call.isPresent = 1

/-- The draw calls for some buffers. -/
def drawsOf : Option MeshBuffers → List (Bound × UInt32)
  | none => []
  | some b => [(⟨some b.vertexBuffer, some b.indexBuffer, some b.atlasGroup⟩, b.indexCount)]

theorem Shown.draws {last : Option Upload} {model : Option MeshBuffers} (h : Shown last model) :
    Draws last (drawsOf model) := by
  cases h with
  | nothing => exact .nothing
  | empty hempty => exact .empty hempty
  | model hempty hcreated =>
    refine .model hempty hcreated ?_
    rw [hcreated.1]
    exact UInt32.toNat_ofNat'

namespace State

variable {s s' : State} {clear : Color} {camera : Camera}

theorem Acquired.not_frameWork {result : Except FrameError Nat} (h : s.Acquired (s', result) ys) :
    ∀ c ∈ ys, ¬ c.IsFrameWork := by
  cases h with
  | first _ hfresh =>
    simp [Call.IsFrameWork, Call.isPass, Call.isDraw, Call.isSubmit, Call.isPresent]
  | again e hstale texture view _ =>
    simp [Call.IsFrameWork, Call.isPass, Call.isDraw, Call.isSubmit, Call.isPresent, depthCalls]

/-- Nothing is drawn, submitted or shown while a frame is asked for. -/
theorem Acquired.countP_append {result : Except FrameError Nat} (h : s.Acquired (s', result) ys)
    {p : Call → Bool} (hp : ∀ c, p c = true → c.IsFrameWork) (rest : List Call) :
    (ys ++ rest).countP p = rest.countP p := by
  have hnone : ys.countP p = 0 :=
    List.countP_eq_zero.2 fun c hmem hpc => h.not_frameWork c hmem (hp c hpc)
  rw [List.countP_append, hnone, Nat.zero_add]

theorem Acquired.passDraws_append {result : Except FrameError Nat}
    (h : s.Acquired (s', result) ys) (rest : List Call) :
    passDraws {} (ys ++ rest) = passDraws {} rest := by
  cases h with
  | first _ hfresh => rfl
  | again e hstale texture view _ => rfl

theorem passDraws_frameCalls (s : State) (clear : Color) (frame view encoder : Nat) :
    passDraws {} (s.frameCalls clear frame view encoder) = drawsOf s.mesh := by
  unfold frameCalls modelCalls
  cases s.mesh with
  | none => rfl
  | some b => rfl

theorem countP_frameCalls (s : State) (clear : Color) (frame view encoder : Nat) :
    (s.frameCalls clear frame view encoder).countP Call.isPass = 1 ∧
      (s.frameCalls clear frame view encoder).countP Call.isSubmit = 1 ∧
      (s.frameCalls clear frame view encoder).countP Call.isPresent = 1 := by
  unfold frameCalls modelCalls
  cases s.mesh with
  | none => exact ⟨rfl, rfl, rfl⟩
  | some b => exact ⟨rfl, rfl, rfl⟩

theorem Drawn.not_frameWork {e : RenderError} (h : s.Drawn clear camera (s', .error e) ys) :
    ∀ c ∈ ys, ¬ c.IsFrameWork := by
  cases h with
  | refused e hacquired =>
    rintro c (_ | ⟨_, hmem⟩)
    · simp [Call.IsFrameWork, Call.isPass, Call.isDraw, Call.isSubmit, Call.isPresent]
    · exact hacquired.not_frameWork c hmem

/-- A draw that succeeds draws the buffers that are there. -/
theorem Drawn.passDraws_eq {n : Nat} (h : s.Drawn clear camera (s', .ok n) ys) :
    passDraws {} ys = drawsOf s.mesh := by
  rw [← h.mesh_eq]
  cases h with
  | @shown _ frame calls hacquired view encoder =>
    exact (hacquired.passDraws_append _).trans (s'.passDraws_frameCalls clear frame view encoder)

/-- A draw that succeeds shows what was uploaded last. -/
theorem Drawn.frameOf {last : Option Upload} {n : Nat} (hshown : Shown last s.mesh)
    (h : s.Drawn clear camera (s', .ok n) ys) : FrameOf last ys n := by
  have hpass := h.passDraws_eq
  have hmesh := h.mesh_eq
  cases h with
  | @shown _ frame calls hacquired view encoder =>
    obtain ⟨hpasses, hsubmits, hpresents⟩ := s'.countP_frameCalls clear frame view encoder
    refine ⟨hpass ▸ hshown.draws, ?_, ?_, ?_, ?_⟩
    · rw [hpass, ← hmesh]
      cases s'.mesh with
      | none => rfl
      | some b => rfl
    · exact (hacquired.countP_append (fun c => .inl) _).trans hpasses
    · exact (hacquired.countP_append (fun c hc => .inr (.inr (.inl hc))) _).trans hsubmits
    · exact (hacquired.countP_append (fun c hc => .inr (.inr (.inr hc))) _).trans hpresents

end State

/-! ## Passes -/

/-- If there is only one pass, a split of the calls at a pass is the split at this pass. -/
theorem eq_of_isPass {xs xs' ys ys' : List Call} {c d : Call}
    (h : xs ++ c :: ys = xs' ++ d :: ys') (hd : d.isPass = true)
    (hxs : ∀ c ∈ xs, c.isPass ≠ true) (hys : ∀ c ∈ ys, c.isPass ≠ true) :
    xs' = xs ∧ d = c ∧ ys' = ys := by
  rcases split_append h with ⟨mid, rfl, -⟩ | ⟨mid, rfl, hmid⟩
  · exact absurd hd (hxs d (by simp))
  · cases mid with
    | nil =>
      obtain ⟨rfl, rfl⟩ := List.cons.inj hmid
      exact ⟨List.append_nil xs, rfl, rfl⟩
    | cons c' mid =>
      obtain ⟨rfl, rfl⟩ := List.cons.inj hmid
      exact absurd hd (hys d (by simp))

theorem passesFit_of_not_frameWork {before calls : List Call} (h : ∀ c ∈ calls, ¬ c.IsFrameWork) :
    PassesFit before calls := by
  rintro xs label color depth clear ys rfl
  exact absurd (.inl rfl) (h (.beginPass label color depth clear) (by simp))

namespace State

variable {s s' : State} {clear : Color} {camera : Camera}

/-- The calls of a frame behind the start of its pass. -/
theorem passes_behind (s : State) (frame encoder : Nat) {rest : List Call}
    (hrest : rest = s.viewportCall :: (s.modelCalls ++ endCalls frame encoder)) :
    rest.filterMap Call.viewport? =
        [(Binary.ofWord s.config.size.width, Binary.ofWord s.config.size.height)] ∧
      Configless rest ∧ ∀ c ∈ rest, c.isPass ≠ true := by
  subst hrest
  unfold modelCalls endCalls
  cases s.mesh with
  | none => exact ⟨rfl, rfl, by simp [Call.isPass, viewportCall]⟩
  | some b => exact ⟨rfl, rfl, by simp [Call.isPass, viewportCall]⟩

/-- A pass of a draw fits the surface, also if the surface had to be set up again before. -/
theorem Drawn.passesFit {answer : Except RenderError Nat}
    (h : s.Drawn clear camera (s', answer) ys) (hs : s.Targets xs) : PassesFit xs ys := by
  cases answer with
  | error e => exact passesFit_of_not_frameWork h.not_frameWork
  | ok n =>
  cases h with
  | @shown _ frame calls hacquired view encoder =>
    obtain ⟨hviewports, hconfigless, hbehind⟩ := s'.passes_behind frame encoder rfl
    let written : Call := .writeBuffer s.cameraBuffer (.numbers camera.viewProjection.toList)
    let opened : List Call := [.createView view frame, .createEncoder encoder "Render Encoder"]
    have hbefore : ∀ c ∈ written :: calls ++ opened, c.isPass ≠ true := by
      intro c hc
      simp only [opened, List.cons_append, List.mem_cons, List.mem_append, List.not_mem_nil,
        or_false] at hc
      rcases hc with rfl | hc | rfl | rfl
      · exact nofun
      · exact fun hpass => hacquired.not_frameWork c hc (.inl hpass)
      · exact nofun
      · exact nofun
    have htargets : s'.Targets (xs ++ (written :: calls ++ opened)) := by
      have hwritten : Configless [written] := rfl
      have hopened : Configless opened := rfl
      simpa using (hacquired.targets (hs.append hwritten)).append hopened
    intro xs' label color depth clear' ys' hsplit
    have hcalls : written :: (calls ++ s'.frameCalls clear frame view encoder) =
        (written :: calls ++ opened) ++
          .beginPass "Model Render Pass" view s'.depthView clear ::
            s'.viewportCall :: (s'.modelCalls ++ endCalls frame encoder) := by
      simp [frameCalls, opened]
    obtain ⟨rfl, hpass, rfl⟩ := eq_of_isPass (hcalls.symm.trans hsplit) rfl hbefore hbehind
    cases hpass
    exact ⟨s'.config, htargets.config, htargets.depth,
      ⟨_, _, hviewports, standsFor_ofWord _, standsFor_ofWord _⟩, hconfigless⟩

end State

/-! ## The same from outside -/

namespace Moves

variable {state state' : Option State} {calls : List Call}

theorem eq_none_of_failed {size : Extent} {e : RenderError}
    (h : Moves state (.setup size (.error e)) calls state') : state' = none := by
  cases h with
  | setupFailed => rfl

theorem upload_of_none {mesh : Mesh} {atlas : Atlas} {answer : Except RenderError Unit}
    (h : Moves none (.upload mesh atlas answer) calls state') : answer = .error .notReady := by
  cases h with
  | notUploaded => rfl

/-- Only a device that is set up draws. -/
theorem draw_cases {camera : Camera} {answer : Except RenderError Nat}
    (h : Moves state (.draw camera answer) calls state') :
    (state = none ∧ answer = .error .notReady ∧ calls = []) ∨
      ∃ s s' clear, state = some s ∧ s.Drawn clear camera (s', answer) calls := by
  cases h with
  | notDrawn => exact .inl ⟨rfl, rfl, rfl⟩
  | @drawn s s' clear _ _ _ hdrawn => exact .inr ⟨s, s', clear, rfl, hdrawn⟩

/-- Uploading a mesh to a device that is set up leaves its buffers. -/
theorem exists_buffers {s : State} {call : BackendCall} {mesh : Mesh} {atlas : Atlas}
    (h : Moves (some s) call calls state') (hop : opOf call = .upload mesh atlas)
    (hmesh : mesh.isEmpty = false) :
    ∃ s' b, state' = some s' ∧ s'.mesh = some b ∧ b.indexCount = mesh.indices.size.toUInt32 := by
  cases h with
  | @uploaded _ _ _ _ _ huploaded =>
    cases hop
    cases huploaded with
    | cleared hempty => exact nomatch hempty.symm.trans hmesh
    | replaced _ b hcount => exact ⟨_, b, rfl, rfl, hcount⟩
  | setupAgain | resizeIgnored | resized | drawn | released => exact nomatch hop

end Moves

/-- A device that is set up draws if it gives a frame. -/
theorem Backend.answer_draw {b : Backend} {s : State} (hs : b.state = some s)
    {environment : Environment} (hframes : environment.frames.head?.join = none) (camera : Camera) :
    ((b.facing environment).perform (.draw camera)).value.1 =
      .draw camera (.ok (if s.mesh.isSome then 1 else 0)) := by
  have hdrawn (d : Device) (hd : d.environment.frames.head?.join = none) :
      ((s.draw b.clearColor camera).run d).value.1.2 = .ok (if s.mesh.isSome then 1 else 0) := by
    cases hmesh : s.mesh <;>
      simp [State.draw, State.acquire, acquireFrame, State.drawFrame, State.drawMesh, record, create,
        hd, hmesh]
  simp [Backend.perform, Backend.draw, Backend.onDevice, Backend.facing, hs, hdrawn, hframes]

namespace History

variable {h : History} {s : State}

/-- A draw of a device that is set up shows its buffers if the device gives a frame. -/
theorem step_draw (hs : h.backend.state = some s) {environment : Environment}
    (hframes : environment.frames.head?.join = none) (camera : Camera) :
    ∃ calls, (h.step (environment, .draw camera)).entries =
        h.entries ++ [⟨.draw camera (.ok (if s.mesh.isSome then 1 else 0)), calls⟩] ∧
      passDraws {} calls = drawsOf s.mesh := by
  obtain ⟨-, hmoves, -⟩ := h.backend.performed_perform environment (.draw camera)
  have hanswer := Backend.answer_draw hs hframes camera
  rw [hs, hanswer] at hmoves
  rcases hmoves.draw_cases with ⟨hnone, -⟩ | ⟨_, s', clear, hsome, hdrawn⟩
  · exact nomatch hnone
  · obtain rfl := Option.some.inj hsome
    exact ⟨_, by rw [← hanswer]; rfl, hdrawn.passDraws_eq⟩

/-- A mesh that is uploaded to a device that is set up is drawn into the next frame, with its indices
counted by a 32-bit word. -/
theorem step_upload_draw (hs : h.backend.state = some s) {mesh : Mesh} (hmesh : mesh.isEmpty = false)
    (atlas : Atlas) (camera : Camera) (uploading : Environment) {drawing : Environment}
    (hframes : drawing.frames.head?.join = none) :
    let h' := h.step (uploading, .upload mesh atlas)
    ∃ calls b, (h'.step (drawing, .draw camera)).entries =
        h'.entries ++ [⟨.draw camera (.ok 1), calls⟩] ∧
      passDraws {} calls = [(b, mesh.indices.size.toUInt32)] := by
  intro h'
  obtain ⟨hop, hmoves, -⟩ := h.backend.performed_perform uploading (.upload mesh atlas)
  rw [hs] at hmoves
  obtain ⟨s', b, hs', hb, hcount⟩ := hmoves.exists_buffers hop hmesh
  have hstate : h'.backend.state = some s' := hs'
  obtain ⟨calls, hentries, hdraws⟩ := step_draw hstate hframes camera
  rw [hb] at hentries hdraws
  rw [drawsOf, hcount] at hdraws
  exact ⟨calls, _, hentries, hdraws⟩

end History

/-- For every use of every history, whatever the device answers: objects are never mixed up, a failed
set-up leaves nothing behind, and without a state nothing can be uploaded or drawn.  A pass of a draw
has depths of the size of the surface and a viewport that stands for this size; a draw that succeeds
shows the last upload in one frame and counts its draw calls, and one that fails shows nothing. -/
theorem History.frames_follow_uploads (clear : Color) (requests : List (Environment × BackendOp))
    (environment : Environment) (op : BackendOp) :
    let h := run ⟨.unused clear, []⟩ requests
    let h' := h.step (environment, op)
    (createdBy (log h'.entries)).Nodup ∧
    ∃ call calls, h'.entries = h.entries ++ [⟨call, calls⟩] ∧ opOf call = op ∧
      (∀ size e, call = .setup size (.error e) → h'.backend.state = none) ∧
      (h.backend.state = none → ∀ mesh atlas answer,
        call = .upload mesh atlas answer → answer = .error .notReady) ∧
      (h.backend.state = none → ∀ camera answer,
        call = .draw camera answer → answer = .error .notReady) ∧
      ∀ camera answer, call = .draw camera answer →
        PassesFit (log h.entries) calls ∧
        (∀ n, answer = .ok n → FrameOf (lastUpload? h.entries) calls n) ∧
        ∀ e, answer = .error e → ∀ c ∈ calls, ¬ c.IsFrameWork := by
  intro h h'
  have hconsistent : h.Consistent := consistent_run clear requests
  obtain ⟨hop, hmoves, -⟩ := h.backend.performed_perform environment op
  refine ⟨(hconsistent.step (environment, op)).numbered.nodup, _, _, rfl, hop, ?_, ?_, ?_, ?_⟩
  · intro size e hcall
    exact (hcall ▸ hmoves).eq_none_of_failed
  · intro hstate mesh atlas answer hcall
    rw [hstate, hcall] at hmoves
    exact hmoves.upload_of_none
  · intro hstate camera answer hcall
    rw [hstate, hcall] at hmoves
    rcases hmoves.draw_cases with ⟨-, hanswer, -⟩ | ⟨s, s', clear', hs, -⟩
    · exact hanswer
    · exact nomatch hs
  · intro camera answer hcall
    rw [hcall] at hmoves
    rcases hmoves.draw_cases with ⟨-, rfl, hcalls⟩ | ⟨s, s', clear', hs, hdrawn⟩
    · rw [hcalls]
      exact ⟨passesFit_of_not_frameWork (by simp), nofun, fun _ _ => by simp⟩
    · have hfits := hconsistent.fits s hs
      refine ⟨hdrawn.passesFit hfits.targets, ?_, ?_⟩
      · rintro n rfl
        exact hdrawn.frameOf hfits.shown
      · rintro e rfl
        exact hdrawn.not_frameWork

/-- A device that grants whatever it is asked for. -/
def Environment.willing : Environment where
  adapter := some "adapter"
  formats := [.bgra8UnormSrgb]

/-- A backend for which nothing has been done. -/
def History.fresh : History := ⟨.unused ⟨0, 0, 0, 1⟩, []⟩

/-- Not all sizes are kept.  If the surface is `2 ^ 24 + 1` pixels wide, the viewport of the only pass is
one pixel narrower; and of a mesh with `2 ^ 32` indices none is drawn. -/
theorem History.sizes_not_kept :
    (let size : Extent := ⟨16777217, 1⟩
      let h := (fresh.step (.willing, .setup size)).step (.willing, .draw (.initial 1))
      ((log h.entries).filterMap Call.configured?).map SurfaceConfig.size = [size] ∧
        (log h.entries).countP Call.isPass = 1 ∧
        ∃ width height, (log h.entries).filterMap Call.viewport? = [(width, height)] ∧
          HasValue width 16777216 ∧ ¬ HasValue width size.width.toNat) ∧
    (let mesh : Mesh := ⟨#[], Array.replicate (2 ^ 32) 0, #[], .empty⟩
      let h := (fresh.step (.willing, .setup ⟨1, 1⟩)).step
        (.willing, .upload mesh ⟨.placeholder, ∅⟩)
      mesh.indices.size = 2 ^ 32 ∧
        ∃ calls b, (h.step (.willing, .draw (.initial 1))).entries =
          h.entries ++ [⟨.draw (.initial 1) (.ok 1), calls⟩] ∧ passDraws {} calls = [(b, 0)]) := by
  constructor
  · have hside : ((16777217 : UInt32).toNat : ℚ) = 16777217 := by norm_cast
    have hwidth := hasValue_ofWord 16777217
    rw [hside, nearest_two_pow_add_one] at hwidth
    refine ⟨by decide +kernel, by decide +kernel, Binary.ofWord 16777217, Binary.ofWord 1,
      by decide +kernel, hwidth, fun hexact => ?_⟩
    have hnearest := hexact.nearest_eq
    rw [hside, nearest_two_pow_add_one] at hnearest
    norm_num at hnearest
  · intro mesh h
    have hsize : mesh.indices.size = 2 ^ 32 := Array.size_replicate
    have hmesh : mesh.isEmpty = false := by
      rw [Mesh.isEmpty, Array.isEmpty_eq_false_iff_exists_mem]
      exact ⟨0, by simp [mesh]⟩
    obtain ⟨s, hs⟩ : ∃ s, (fresh.step (.willing, .setup ⟨1, 1⟩)).backend.state = some s :=
      Option.isSome_iff_exists.1 (by decide +kernel)
    have hframes : Environment.willing.frames.head?.join = none := rfl
    obtain ⟨calls, b, hentries, hdraws⟩ :=
      step_upload_draw hs hmesh ⟨.placeholder, ∅⟩ (.initial 1) .willing hframes
    rw [hsize] at hdraws
    exact ⟨hsize, calls, b, hentries, hdraws⟩

end Gpu
end ModelPreview
