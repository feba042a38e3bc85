import Mathlib
import ModelPreview.Proofs.Collections
import ModelPreview.Proofs.Render.Calls

/-!
# The life of a render session

Whatever a backend answers, a session calls it in a fixed order: set-ups until one succeeds, then any
amount of work, and one release when the session ends.  A session that has ended makes no calls any
more.

Main definitions:

- `RenderSession.InOrder`: the calls that fit a state.
- `RenderSession.Lawful`: what holds after every run.

Main results:

- `RenderSession.lawful_run`: every run is lawful.
- `RenderSession.calls_follow_lifecycle`: order of calls, states and refusals in every run.
-/

namespace ModelPreview

namespace BackendCall

/-- An attempt to set the backend up that failed. -/
def IsFailedSetup : BackendCall → Prop
  | setup _ (.error _) => True
  | _ => False

/-- A call that needs a backend that is set up and leaves it so. -/
def IsWork : BackendCall → Prop
  | resize _ | upload _ _ _ | draw _ _ => True
  | _ => False

end BackendCall

theorem SessionOp.Draws.ne_dispose {op : SessionOp} (h : op.Draws) : op ≠ .dispose := by
  rintro rfl
  exact h

theorem SessionOp.Adjusts.ne_dispose {op : SessionOp} (h : op.Adjusts) : op ≠ .dispose := by
  rintro rfl
  exact h

theorem SessionOp.Adjusts.not_draws {op : SessionOp} (h : op.Adjusts) : ¬ op.Draws := by
  cases op <;> first | exact id | exact absurd h id

namespace RenderSession

/-! ## The order of calls -/

/-- The calls that fit a state. -/
inductive InOrder : SessionState → List BackendCall → Prop where
  | unused {failed : List BackendCall} (hfailed : ∀ c ∈ failed, c.IsFailedSetup) :
    InOrder .uninitialized failed
  | working {failed : List BackendCall} (size : Extent) {work : List BackendCall}
      (hfailed : ∀ c ∈ failed, c.IsFailedSetup) (hwork : ∀ c ∈ work, c.IsWork) :
    InOrder .ready (failed ++ .setup size (.ok ()) :: work)
  | endedUnused {failed : List BackendCall} (hfailed : ∀ c ∈ failed, c.IsFailedSetup) :
    InOrder .disposed failed
  | released {failed : List BackendCall} (size : Extent) {work : List BackendCall}
      (hfailed : ∀ c ∈ failed, c.IsFailedSetup) (hwork : ∀ c ∈ work, c.IsWork) :
    InOrder .disposed (failed ++ .setup size (.ok ()) :: (work ++ [.release]))

variable {calls new : List BackendCall} {state state' : SessionState} {op : SessionOp}
  {r : Except RenderError Unit}

theorem InOrder.append_work (h : InOrder .ready calls) (hnew : ∀ c ∈ new, c.IsWork) :
    InOrder .ready (calls ++ new) := by
  cases h with
  | working size hfailed hwork =>
    rw [List.append_assoc, List.cons_append]
    refine .working size hfailed ?_
    intro c hc
    rcases List.mem_append.1 hc with hc | hc
    · exact hwork c hc
    · exact hnew c hc

/-- One operation keeps the calls in order. -/
theorem InOrder.step (h : InOrder state calls) (hmoves : Moves op state new state' r) :
    InOrder state' (calls ++ new) := by
  cases hmoves with
  | setupFailed size e =>
    cases h with
    | unused hfailed =>
      refine .unused ?_
      intro c hc
      rcases List.mem_append.1 hc with hc | hc
      · exact hfailed c hc
      · obtain rfl := List.mem_singleton.1 hc
        trivial
  | setupDone size =>
    cases h with
    | unused hfailed => exact .working size hfailed (by simp)
  | released =>
    cases h with
    | working size hfailed hwork =>
      rw [List.append_assoc, List.cons_append]
      exact .released size hfailed hwork
  | endedUnused =>
    cases h with
    | unused hfailed =>
      rw [List.append_nil]
      exact .endedUnused hfailed
  | notUploaded hop mesh atlas e => exact h.append_work (by simp [BackendCall.IsWork])
  | presented hop mesh atlas camera answer => exact h.append_work (by simp [BackendCall.IsWork])
  | redrawn camera answer => exact h.append_work (by simp [BackendCall.IsWork])
  | resized size => exact h.append_work (by simp [BackendCall.IsWork])
  | setupAgain => exact (List.append_nil calls).symm ▸ h
  | setupEnded => exact (List.append_nil calls).symm ▸ h
  | notReady hop => exact (List.append_nil calls).symm ▸ h
  | ended hop => exact (List.append_nil calls).symm ▸ h
  | unbuilt hop e => exact (List.append_nil calls).symm ▸ h
  | adjusted _ hop _ => exact (List.append_nil calls).symm ▸ h
  | endedAgain => exact (List.append_nil calls).symm ▸ h

/-- Every successful upload is followed by a draw. -/
def UploadsDrawn (calls : List BackendCall) : Prop :=
  ∀ pre mesh atlas post, calls = pre ++ .upload mesh atlas (.ok ()) :: post →
    ∃ camera answer rest, post = .draw camera answer :: rest

theorem UploadsDrawn.append (hcalls : UploadsDrawn calls) (hnew : UploadsDrawn new) :
    UploadsDrawn (calls ++ new) := by
  intro pre mesh atlas post heq
  rcases split_append heq with ⟨mid, hold, hpost⟩ | ⟨mid, -, hlast⟩
  · obtain ⟨camera, answer, rest, rfl⟩ := hcalls pre mesh atlas mid hold
    exact ⟨camera, answer, rest ++ new, hpost⟩
  · exact hnew mid mesh atlas post hlast

/-- An operation that uploads something draws it and does nothing else. -/
theorem Moves.eq_of_upload (h : Moves op state new state' r) {mesh : Mesh} {atlas : Atlas}
    (hmem : .upload mesh atlas (.ok ()) ∈ new) :
    ∃ camera answer, new = [.upload mesh atlas (.ok ()), .draw camera answer] := by
  cases h with
  | presented hop mesh' atlas' camera answer =>
    simp only [List.mem_cons, BackendCall.upload.injEq, List.not_mem_nil, or_false, reduceCtorEq]
      at hmem
    obtain ⟨rfl, rfl, -⟩ := hmem
    exact ⟨camera, answer, rfl⟩
  | _ => simp at hmem

theorem Moves.uploadsDrawn (h : Moves op state new state' r) : UploadsDrawn new := by
  intro pre mesh atlas post heq
  have hmem : .upload mesh atlas (.ok ()) ∈ new := by
    rw [heq]
    exact List.mem_append_right pre List.mem_cons_self
  obtain ⟨camera, answer, hnew⟩ := h.eq_of_upload hmem
  rw [heq] at hnew
  cases pre with
  | nil =>
    obtain ⟨-, rfl⟩ := List.cons.inj hnew
    exact ⟨camera, answer, [], rfl⟩
  | cons c pre =>
    obtain ⟨-, htail⟩ := List.cons.inj hnew
    cases pre with
    | nil => cases htail
    | cons c' pre => simp at htail

/-! ## States -/

/-- The backend is released when a session that is set up ends, and not otherwise. -/
theorem Moves.release_mem_iff (h : Moves op state new state' r) :
    .release ∈ new ↔ op = .dispose ∧ state = .ready := by
  cases h with
  | adjusted op hop state => simp [hop.ne_dispose]
  | unbuilt hop e => simp [hop.ne_dispose]
  | notUploaded hop mesh atlas e => simp [hop.ne_dispose]
  | presented hop mesh atlas camera answer => simp [hop.ne_dispose]
  | _ => simp

theorem Moves.disposed_iff (h : Moves op state new state' r) :
    state' = .disposed ↔ state = .disposed ∨ op = .dispose := by
  cases h with
  | adjusted op hop state => simp [hop.ne_dispose]
  | notReady hop => simp [hop.ne_dispose]
  | unbuilt hop e => simp [hop.ne_dispose]
  | notUploaded hop mesh atlas e => simp [hop.ne_dispose]
  | presented hop mesh atlas camera answer => simp [hop.ne_dispose]
  | _ => simp

/-- A session that has ended makes no calls, stays so and draws nothing. -/
theorem Moves.of_disposed (h : Moves op .disposed new state' r) :
    new = [] ∧ state' = .disposed ∧ (op.Draws → r = .error .disposed) := by
  cases h with
  | setupEnded => exact ⟨rfl, rfl, nofun⟩
  | ended hop => exact ⟨rfl, rfl, fun _ => rfl⟩
  | adjusted op hop => exact ⟨rfl, rfl, fun hdraws => absurd hdraws hop.not_draws⟩
  | endedAgain => exact ⟨rfl, rfl, nofun⟩

theorem Moves.of_uninitialized (h : Moves op .uninitialized new state' r) (hop : op.Draws) :
    r = .error .notReady := by
  cases h with
  | notReady => rfl
  | adjusted op hadjusts => exact absurd hop hadjusts.not_draws
  | setupFailed => cases hop
  | setupDone => cases hop
  | endedUnused => cases hop

theorem InOrder.state_ne_rendering (h : InOrder state calls) : state ≠ .rendering := by
  cases h <;> simp

/-- Before a set-up has succeeded all calls are failed set-ups. -/
theorem InOrder.state_eq_uninitialized (h : InOrder state calls)
    (hnone : ∀ size, .setup size (.ok ()) ∉ calls) (hstate : state ≠ .disposed) :
    state = .uninitialized := by
  cases h with
  | unused hfailed => rfl
  | working size hfailed hwork => exact absurd (by simp) (hnone size)
  | endedUnused hfailed => exact absurd rfl hstate
  | released size hfailed hwork => exact absurd rfl hstate

/-- The calls of a session in any state, put as one form. -/
theorem InOrder.exists_form (h : InOrder state calls) :
    ∃ failed, (∀ c ∈ failed, c.IsFailedSetup) ∧ (calls = failed ∨
      ∃ size work last, calls = failed ++ .setup size (.ok ()) :: (work ++ last) ∧
        (∀ c ∈ work, c.IsWork) ∧ (last = [] ∨ last = [.release])) := by
  cases h with
  | unused hfailed => exact ⟨calls, hfailed, .inl rfl⟩
  | @working failed size work hfailed hwork =>
    exact ⟨failed, hfailed, .inr ⟨size, work, [], by rw [List.append_nil], hwork, .inl rfl⟩⟩
  | endedUnused hfailed => exact ⟨calls, hfailed, .inl rfl⟩
  | @released failed size work hfailed hwork =>
    exact ⟨failed, hfailed, .inr ⟨size, work, [.release], rfl, hwork, .inr rfl⟩⟩

/-! ## Runs -/

section Runs

variable {β τ : Type}

/-- What holds of a session after some operations. -/
structure Lawful (s : RenderSession (Traced β) τ) (ops : List SessionOp) : Prop where
  inOrder : InOrder s.state s.backend.calls
  uploadsDrawn : UploadsDrawn s.backend.calls
  disposed_iff : s.state = .disposed ↔ .dispose ∈ ops

theorem lawful_create (backend : β) (textures : τ) (size : Extent) :
    Lawful (create (⟨backend, []⟩ : Traced β) textures size) [] where
  inOrder := .unused (by simp [create])
  uploadsDrawn := by
    intro pre mesh atlas post heq
    simp [create] at heq
  disposed_iff := by simp [create]

variable [RenderBackend β] [TextureSource τ] {s : RenderSession (Traced β) τ} {ops : List SessionOp}

theorem Lawful.movesTo (h : Lawful s ops) (op : SessionOp) : s.MovesTo op (s.apply op).value :=
  movesTo_apply h.inOrder.state_ne_rendering op

/-- One operation keeps a session lawful. -/
theorem Lawful.step (h : Lawful s ops) (op : SessionOp) :
    Lawful (s.apply op).value.1 (ops ++ [op]) := by
  obtain ⟨new, hcalls, hmoves⟩ := h.movesTo op
  refine ⟨?_, ?_, ?_⟩
  · rw [hcalls]
    exact h.inOrder.step hmoves
  · rw [hcalls]
    exact h.uploadsDrawn.append hmoves.uploadsDrawn
  · rw [hmoves.disposed_iff, h.disposed_iff, List.mem_append, List.mem_singleton, eq_comm (a := op)]

theorem Lawful.run (h : Lawful s ops) (rest : List SessionOp) :
    Lawful (s.run rest) (ops ++ rest) := by
  induction rest generalizing s ops with
  | nil => rwa [List.append_nil]
  | cons op rest ih =>
    have hrest := ih (h.step op)
    rw [List.append_assoc] at hrest
    exact hrest

/-- A session that has ended makes no calls any more. -/
theorem calls_run_of_disposed (h : s.state = .disposed) (rest : List SessionOp) :
    (s.run rest).backend.calls = s.backend.calls := by
  induction rest generalizing s with
  | nil => rfl
  | cons op rest ih =>
    obtain ⟨new, hcalls, hmoves⟩ := movesTo_apply (s := s) (by simp [h]) op
    rw [h] at hmoves
    obtain ⟨rfl, hstate, -⟩ := hmoves.of_disposed
    rw [List.append_nil] at hcalls
    exact (ih hstate).trans hcalls

/-- In every run of a session over any backend and any source of textures: writing the calls down
changes nothing; the calls are failed set-ups, then at most one that succeeds, followed by any work
and at most one release at the end; every successful upload is followed by a draw; between operations
the session never is in the middle of rendering; it has ended exactly if it was told to, and draws
only if it is set up and has not ended; once it has ended no calls are made any more; and each
operation releases the backend exactly if it ends a session that is set up, and draws once what it
uploads. -/
theorem calls_follow_lifecycle (backend : β) (textures : τ) (size : Extent)
    (ops : List SessionOp) :
    let s := (create (⟨backend, []⟩ : Traced β) textures size).run ops
    s.untraced = (create backend textures size).run ops ∧
    (∃ failed, (∀ c ∈ failed, c.IsFailedSetup) ∧ (s.backend.calls = failed ∨
      ∃ size work last, s.backend.calls = failed ++ .setup size (.ok ()) :: (work ++ last) ∧
        (∀ c ∈ work, c.IsWork) ∧ (last = [] ∨ last = [.release]))) ∧
    (∀ pre mesh atlas post, s.backend.calls = pre ++ .upload mesh atlas (.ok ()) :: post →
      ∃ camera answer rest, post = .draw camera answer :: rest) ∧
    (s.state = .uninitialized ∨ s.state = .ready ∨ s.state = .disposed) ∧
    (s.state = .disposed ↔ .dispose ∈ ops) ∧
    (∀ op : SessionOp, op.Draws →
      (.dispose ∈ ops → (s.apply op).value.2 = .error .disposed) ∧
      (.dispose ∉ ops → (∀ size, .setup size (.ok ()) ∉ s.backend.calls) →
        (s.apply op).value.2 = .error .notReady)) ∧
    (.dispose ∈ ops → ∀ rest, (s.run rest).backend.calls = s.backend.calls) ∧
    ∀ op, ∃ new, (s.apply op).value.1.backend.calls = s.backend.calls ++ new ∧
      (.release ∈ new ↔ op = .dispose ∧ s.state = .ready) ∧
      ∀ mesh atlas, .upload mesh atlas (.ok ()) ∈ new →
        ∃ camera answer, new = [.upload mesh atlas (.ok ()), .draw camera answer] := by
  intro s
  have h : Lawful s ops := (lawful_create backend textures size).run ops
  refine ⟨untraced_run _ ops, h.inOrder.exists_form, h.uploadsDrawn, ?_, h.disposed_iff, ?_, ?_, ?_⟩
  · have hstate := h.inOrder.state_ne_rendering
    cases hs : s.state with
    | uninitialized => exact .inl rfl
    | ready => exact .inr (.inl rfl)
    | disposed => exact .inr (.inr rfl)
    | rendering => exact absurd hs hstate
  · intro op hop
    obtain ⟨new, -, hmoves⟩ := h.movesTo op
    constructor
    · intro hdispose
      rw [h.disposed_iff.2 hdispose] at hmoves
      exact hmoves.of_disposed.2.2 hop
    · intro hdispose hnone
      have hstate : s.state ≠ .disposed := fun hs => hdispose (h.disposed_iff.1 hs)
      rw [h.inOrder.state_eq_uninitialized hnone hstate] at hmoves
      exact hmoves.of_uninitialized hop
  · intro hdispose rest
    exact calls_run_of_disposed (h.disposed_iff.2 hdispose) rest
  · intro op
    obtain ⟨new, hcalls, hmoves⟩ := h.movesTo op
    exact ⟨new, hcalls, hmoves.release_mem_iff, fun mesh atlas => hmoves.eq_of_upload⟩

end Runs

end RenderSession
end ModelPreview
