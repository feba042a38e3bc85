import Mathlib
import ModelPreview.Proofs.Render.Lifecycle

/-!
# The books of a render session

A session counts what it has uploaded and drawn and keeps the size of the picture.  The counts are
those of the calls that succeeded, whatever the backend answers in between, and while the session is
set up its size is the one that the backend was given last.

Main definitions:

- `SessionStats.after`: the counts after one more call.
- `RenderSession.Accounts`: what an operation does to the counts and to the size.

Main results:

- `RenderSession.accounts_apply`: every operation keeps the books.
- `RenderSession.stats_and_size_follow_calls`: counts and size after every run.
-/

namespace ModelPreview

/-! ## What calls and operations say -/

namespace BackendCall

/-- The mesh that a call has uploaded. -/
def uploaded? : BackendCall → Option Mesh
  | upload mesh _ (.ok _) => some mesh
  | _ => none

/-- The number of draw calls that a call has made. -/
def drawn? : BackendCall → Option Nat
  | draw _ (.ok n) => some n
  | _ => none

/-- The size that a backend which is set up is given by a call. -/
def size? : BackendCall → Option Extent
  | setup size (.ok _) => some size
  | resize size => some size
  | _ => none

end BackendCall

namespace SessionOp

/-- Whether an operation ends the session. -/
def isDispose : SessionOp → Bool
  | dispose => true
  | _ => false

/-- The size that an operation asks for; a size without pixels does not count. -/
def size? : SessionOp → Option Extent
  | resize size => if size.isEmpty then none else some size
  | _ => none

theorem isDispose_eq_true_iff {op : SessionOp} : op.isDispose = true ↔ op = .dispose := by
  cases op <;> simp [isDispose]

theorem size?_of_draws {op : SessionOp} (h : op.Draws) : op.size? = none := by
  cases op with
  | render | handle | redraw => rfl
  | _ => exact absurd h id

/-- What comes behind the end of a session does not stand before it. -/
theorem takeWhile_append_of_mem {ops : List SessionOp} (h : .dispose ∈ ops) (rest : List SessionOp) :
    (ops ++ rest).takeWhile (!·.isDispose) = ops.takeWhile (!·.isDispose) := by
  induction ops with
  | nil => cases h
  | cons first ops ih =>
    rw [List.cons_append, List.takeWhile_cons, List.takeWhile_cons]
    rcases List.mem_cons.1 h with rfl | hmem
    · rfl
    · rw [ih hmem]

theorem not_isDispose_of_notMem {ops : List SessionOp} (h : .dispose ∉ ops) :
    ∀ op ∈ ops, (!op.isDispose) = true := by
  intro op hop
  cases hdispose : op.isDispose with
  | false => rfl
  | true => exact absurd (isDispose_eq_true_iff.1 hdispose ▸ hop) h

end SessionOp

/-! ## Counts -/

/-- The counts after one more call. -/
def SessionStats.after (stats : SessionStats) : BackendCall → SessionStats
  | .upload mesh _ (.ok _) =>
    { stats with
      renders := stats.renders + 1
      vertices := mesh.vertices.size
      indices := mesh.indices.size }
  | .draw _ (.ok n) => { stats with drawCalls := stats.drawCalls + n }
  | _ => stats

/-- Counts are those of a list of calls: how many uploads have succeeded, the sizes of the mesh
uploaded last, and how many draw calls have been made by the draws that have succeeded. -/
structure SessionStats.Counts (stats : SessionStats) (calls : List BackendCall) : Prop where
  renders : stats.renders = (calls.filterMap BackendCall.uploaded?).length
  vertices : stats.vertices =
    ((calls.filterMap BackendCall.uploaded?).getLast?.map (·.vertices.size)).getD 0
  indices : stats.indices =
    ((calls.filterMap BackendCall.uploaded?).getLast?.map (·.indices.size)).getD 0
  drawCalls : stats.drawCalls = (calls.filterMap BackendCall.drawn?).sum

namespace SessionStats

open BackendCall

variable {stats : SessionStats} {calls : List BackendCall}

/-- A call that neither uploads nor draws does not count. -/
theorem Counts.append_of_none (h : stats.Counts calls) {c : BackendCall}
    (hupload : c.uploaded? = none) (hdraw : c.drawn? = none) : stats.Counts (calls ++ [c]) := by
  have huploads : (calls ++ [c]).filterMap uploaded? = calls.filterMap uploaded? := by
    simp [hupload]
  have hdraws : (calls ++ [c]).filterMap drawn? = calls.filterMap drawn? := by
    simp [hdraw]
  refine ⟨?_, ?_, ?_, ?_⟩
  · rw [huploads]
    exact h.renders
  · rw [huploads]
    exact h.vertices
  · rw [huploads]
    exact h.indices
  · rw [hdraws]
    exact h.drawCalls

theorem Counts.append (h : stats.Counts calls) (c : BackendCall) :
    (stats.after c).Counts (calls ++ [c]) := by
  cases c with
  | setup size answer => exact h.append_of_none rfl rfl
  | resize size => exact h.append_of_none rfl rfl
  | release => exact h.append_of_none rfl rfl
  | upload mesh atlas answer =>
    cases answer with
    | error e => exact h.append_of_none rfl rfl
    | ok u =>
      refine ⟨?_, ?_, ?_, ?_⟩
      · simp [after, uploaded?, h.renders]
      · simp [after, uploaded?]
      · simp [after, uploaded?]
      · simp [after, List.filterMap_cons, drawn?, h.drawCalls]
  | draw camera answer =>
    cases answer with
    | error e => exact h.append_of_none rfl rfl
    | ok n =>
      refine ⟨?_, ?_, ?_, ?_⟩
      · simp [after, uploaded?, h.renders]
      · simp [after, uploaded?, h.vertices]
      · simp [after, uploaded?, h.indices]
      · simp [after, drawn?, h.drawCalls]

/-- Counts that follow some calls stay right. -/
theorem Counts.foldl_after (h : stats.Counts calls) (new : List BackendCall) :
    (new.foldl after stats).Counts (calls ++ new) := by
  induction new generalizing stats calls with
  | nil => rwa [List.append_nil]
  | cons c new ih =>
    have hrest := ih (h.append c)
    rw [List.append_assoc] at hrest
    exact hrest

end SessionStats

/-! ## One operation -/

namespace RenderSession

open BackendCall SessionStats

variable {β τ : Type} {s s' : RenderSession (Traced β) τ} {op : SessionOp}

/-- What an operation with some calls does to the counts and to the size of a session. -/
structure Accounts (s : RenderSession (Traced β) τ) (op : SessionOp)
    (s' : RenderSession (Traced β) τ) (new : List BackendCall) : Prop where
  /-- The calls are written down. -/
  calls : s'.backend.calls = s.backend.calls ++ new
  /-- The counts follow the calls. -/
  stats : s'.stats = new.foldl SessionStats.after s.stats
  /-- The size is the one asked for, unless the session has ended. -/
  size : s'.size = if s.state = .disposed then s.size else op.size?.getD s.size
  /-- A session that is set up has given its size to the backend now, or has kept it. -/
  given : s'.state = .ready → new.filterMap BackendCall.size? = [s'.size] ∨
    new.filterMap BackendCall.size? = [] ∧ s.state = .ready ∧ s'.size = s.size

/-- An operation without calls that concern the size. -/
theorem accounts_of_size_eq {new : List BackendCall} (hop : op.size? = none)
    (hcalls : s'.backend.calls = s.backend.calls ++ new)
    (hstats : s'.stats = new.foldl SessionStats.after s.stats) (hsize : s'.size = s.size)
    (hnew : new.filterMap BackendCall.size? = []) (hready : s'.state = .ready → s.state = .ready) :
    s.Accounts op s' new where
  calls := hcalls
  stats := hstats
  size := by rw [hsize, hop, Option.getD_none, ite_self]
  given := fun h => .inr ⟨hnew, hready h, hsize⟩

/-- An operation that leaves backend, counts and size alone. -/
theorem accounts_idle (hop : op.size? = none) (hbackend : s'.backend = s.backend)
    (hstats : s'.stats = s.stats) (hsize : s'.size = s.size)
    (hready : s'.state = .ready → s.state = .ready) : s.Accounts op s' [] :=
  accounts_of_size_eq hop (by rw [hbackend, List.append_nil]) hstats hsize rfl hready

theorem Rendered.accounts {r : RenderSession (Traced β) τ × Except RenderError Unit}
    (h : s.Rendered r) (hready : s.state = .ready) (hop : op.Draws) :
    ∃ new, s.Accounts op r.1 new := by
  have hsize := SessionOp.size?_of_draws hop
  cases h with
  | unbuilt textures e => exact ⟨_, accounts_idle hsize rfl rfl rfl fun _ => hready⟩
  | notUploaded textures inner mesh atlas e =>
    exact ⟨_, accounts_of_size_eq hsize rfl rfl rfl rfl fun _ => hready⟩
  | notDrawn textures inner mesh atlas e =>
    exact ⟨_, accounts_of_size_eq hsize rfl rfl rfl rfl fun _ => hready⟩
  | drawn textures inner mesh atlas n =>
    exact ⟨_, accounts_of_size_eq hsize rfl rfl rfl rfl fun _ => hready⟩

variable [RenderBackend β]

theorem accounts_setup : ∃ new, s.Accounts .setup s.setup.value.1 new := by
  unfold setup
  cases hs : s.state with
  | disposed => exact ⟨_, accounts_idle rfl rfl rfl rfl fun h => h⟩
  | ready => exact ⟨_, accounts_idle rfl rfl rfl rfl fun h => h⟩
  | rendering => exact ⟨_, accounts_idle rfl rfl rfl rfl fun h => h⟩
  | uninitialized =>
    simp only [Logged.value_bind, Traced.value_setup]
    cases ((RenderBackend.setup s.size).run s.backend.inner).value.1 with
    | error e => exact ⟨_, accounts_of_size_eq rfl rfl rfl rfl rfl nofun⟩
    | ok u =>
      refine ⟨[.setup s.size (.ok u)], rfl, rfl, ?_, fun _ => .inl rfl⟩
      exact (ite_self s.size).symm

theorem accounts_redraw : ∃ new, s.Accounts .redraw s.redraw.value.1 new := by
  unfold redraw
  cases hrefusal : s.refusal? with
  | some e => exact ⟨_, accounts_idle rfl rfl rfl rfl fun h => h⟩
  | none =>
    simp only [draw, Logged.value_bind, Traced.value_draw]
    cases ((RenderBackend.draw s.camera).run s.backend.inner).value.1 with
    | error e => exact ⟨_, accounts_of_size_eq rfl rfl rfl rfl rfl fun h => h⟩
    | ok n => exact ⟨_, accounts_of_size_eq rfl rfl rfl rfl rfl fun h => h⟩

theorem accounts_resize (size : Extent) :
    ∃ new, s.Accounts (.resize size) (s.resize size).value new := by
  unfold resize
  by_cases hempty : size.isEmpty = true
  · rw [if_pos (.inl hempty)]
    exact ⟨_, accounts_idle (by simp [SessionOp.size?, hempty]) rfl rfl rfl fun h => h⟩
  have hasked : SessionOp.size? (.resize size) = some size := by
    simp [SessionOp.size?, hempty]
  by_cases hended : s.state = .disposed
  · rw [if_pos (.inr hended)]
    refine ⟨[], (List.append_nil _).symm, rfl, (if_pos hended).symm, ?_⟩
    intro hready
    cases hended.symm.trans hready
  · rw [if_neg (not_or.2 ⟨hempty, hended⟩)]
    by_cases hs : s.state = .uninitialized
    · simp only [hs, if_true]
      refine ⟨[], (List.append_nil _).symm, rfl, ?_, ?_⟩
      · rw [if_neg hended, hasked]
        rfl
      · exact nofun
    · simp only [hs, if_false, Logged.value_bind, Traced.value_resize]
      refine ⟨[.resize size], rfl, rfl, ?_, fun _ => .inl rfl⟩
      rw [if_neg hended, hasked]
      rfl

theorem accounts_dispose : ∃ new, s.Accounts .dispose s.dispose.value new := by
  unfold dispose
  cases hs : s.state with
  | disposed => exact ⟨_, accounts_idle rfl rfl rfl rfl fun h => h⟩
  | uninitialized => exact ⟨_, accounts_idle rfl rfl rfl rfl nofun⟩
  | ready => exact ⟨_, accounts_of_size_eq rfl rfl rfl rfl rfl nofun⟩
  | rendering => exact ⟨_, accounts_of_size_eq rfl rfl rfl rfl rfl nofun⟩

variable [TextureSource τ]

theorem accounts_render (model : Model) (hop : op.Draws) :
    ∃ new, s.Accounts op (s.render model).value.1 new := by
  cases hrefusal : s.refusal? with
  | some e =>
    rw [render_value_of_refusal hrefusal]
    exact ⟨_, accounts_idle (SessionOp.size?_of_draws hop) rfl rfl rfl fun h => h⟩
  | none =>
    have hready := state_eq_ready hrefusal
    exact (rendered_render hready model).accounts hready hop

/-- Every operation keeps the books. -/
theorem accounts_apply (s : RenderSession (Traced β) τ) (op : SessionOp) :
    ∃ new, s.Accounts op (s.apply op).value.1 new := by
  cases op with
  | setup => exact accounts_setup
  | render model => exact accounts_render model trivial
  | handle m =>
    cases m with
    | renderModel model => exact accounts_render model trivial
  | redraw => exact accounts_redraw
  | resize size => exact accounts_resize size
  | orbit yaw pitch => exact ⟨_, accounts_idle rfl rfl rfl rfl fun h => h⟩
  | dolly amount => exact ⟨_, accounts_idle rfl rfl rfl rfl fun h => h⟩
  | dispose => exact accounts_dispose

/-! ## Runs -/

/-- The size that operations on a session of some size ask for: the last one before its end, or the
one it had. -/
def askedSize (size : Extent) (ops : List SessionOp) : Extent :=
  ((ops.takeWhile (!·.isDispose)).filterMap SessionOp.size?).getLast?.getD size

theorem askedSize_append_of_mem (size : Extent) {ops : List SessionOp} (h : .dispose ∈ ops)
    (op : SessionOp) : askedSize size (ops ++ [op]) = askedSize size ops := by
  rw [askedSize, SessionOp.takeWhile_append_of_mem h]
  rfl

theorem askedSize_append_of_notMem (size : Extent) {ops : List SessionOp} (h : .dispose ∉ ops)
    (op : SessionOp) : askedSize size (ops ++ [op]) = op.size?.getD (askedSize size ops) := by
  have hall := SessionOp.not_isDispose_of_notMem h
  have hself : ops.takeWhile (!·.isDispose) = ops := List.takeWhile_eq_self_iff.2 hall
  have hlast : ([op].takeWhile (!·.isDispose)).filterMap SessionOp.size? = op.size?.toList := by
    cases hdispose : op.isDispose with
    | true => simp [SessionOp.isDispose_eq_true_iff.1 hdispose, SessionOp.isDispose, SessionOp.size?]
    | false => cases hsize : op.size? <;> simp [hdispose, hsize]
  rw [askedSize, askedSize, hself, List.takeWhile_append_of_pos hall, List.filterMap_append, hlast,
    List.getLast?_append]
  cases op.size? with
  | none => rfl
  | some asked => rfl

/-- What the books of a session say that had some size at first. -/
structure Accounted (size : Extent) (s : RenderSession (Traced β) τ) (ops : List SessionOp) :
    Prop where
  counts : s.stats.Counts s.backend.calls
  size_eq : s.size = askedSize size ops
  given : s.state = .ready → (s.backend.calls.filterMap BackendCall.size?).getLast? = some s.size

omit [RenderBackend β] [TextureSource τ] in
theorem accounted_create (backend : β) (textures : τ) (size : Extent) :
    Accounted size (create (⟨backend, []⟩ : Traced β) textures size) [] where
  counts := ⟨rfl, rfl, rfl, rfl⟩
  size_eq := rfl
  given := nofun

theorem Accounted.step {size : Extent} {ops : List SessionOp} (h : s.Accounted size ops)
    (hlawful : s.Lawful ops) (op : SessionOp) :
    (s.apply op).value.1.Accounted size (ops ++ [op]) := by
  obtain ⟨new, hnew⟩ := s.accounts_apply op
  refine ⟨?_, ?_, ?_⟩
  · rw [hnew.calls, hnew.stats]
    exact h.counts.foldl_after new
  · rw [hnew.size, h.size_eq]
    split
    · rename_i hended
      rw [askedSize_append_of_mem size (hlawful.disposed_iff.1 hended)]
    · rename_i hgoes
      rw [askedSize_append_of_notMem size fun hmem => hgoes (hlawful.disposed_iff.2 hmem)]
  · intro hready
    rw [hnew.calls, List.filterMap_append, List.getLast?_append]
    rcases hnew.given hready with hgiven | ⟨hnone, hwas, hkept⟩
    · rw [hgiven]
      rfl
    · rw [hnone, hkept, h.given hwas]
      rfl

theorem accounted_run (backend : β) (textures : τ) (size : Extent) (ops : List SessionOp) :
    ((create (⟨backend, []⟩ : Traced β) textures size).run ops).Accounted size ops := by
  induction ops using List.reverseRecOn with
  | nil => exact accounted_create backend textures size
  | append_singleton ops op ih =>
    have hlawful : Lawful ((create (⟨backend, []⟩ : Traced β) textures size).run ops) ops :=
      (lawful_create backend textures size).run ops
    have hstep := ih.step hlawful op
    rw [run, List.foldl_append]
    exact hstep

/-- In every run of a session over any backend and any source of textures, whatever fails: the number
of models counted is that of the uploads that succeeded, the numbers of vertices and indices are those
of the last one of them, and the draw calls counted are those of all draws that succeeded.  The size
of the session is the last one asked for before its end, or the one it was created with, and while the
session is set up it is the size that the backend was given last. -/
theorem stats_and_size_follow_calls (backend : β) (textures : τ) (size : Extent)
    (ops : List SessionOp) :
    let s := (create (⟨backend, []⟩ : Traced β) textures size).run ops
    let uploads := s.backend.calls.filterMap uploaded?
    s.untraced = (create backend textures size).run ops ∧
    s.stats.renders = uploads.length ∧
    s.stats.vertices = (uploads.getLast?.map (·.vertices.size)).getD 0 ∧
    s.stats.indices = (uploads.getLast?.map (·.indices.size)).getD 0 ∧
    s.stats.drawCalls = (s.backend.calls.filterMap drawn?).sum ∧
    (s.state = .ready → (s.backend.calls.filterMap BackendCall.size?).getLast? = some s.size) ∧
    s.size = ((ops.takeWhile (!·.isDispose)).filterMap SessionOp.size?).getLast?.getD size := by
  intro s uploads
  have h : s.Accounted size ops := accounted_run backend textures size ops
  exact ⟨untraced_run _ ops, h.counts.renders, h.counts.vertices, h.counts.indices,
    h.counts.drawCalls, h.given, h.size_eq⟩

end RenderSession
end ModelPreview
