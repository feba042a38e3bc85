import Mathlib
import ModelPreview.Proofs.Preview.PanelStep

/-!
# Surfaces that have failed

A surface has failed for good when this is reported or when it announces itself with another version
of the protocol.  From then on until its panel is closed the session shows why, holds no model and
posts nothing, although the bridge may still turn ready by an announcement queued behind the bad one.

Main definitions:

- `PreviewSession.Failed`: a session whose surface has failed.
- `History.SurfaceFails`: an operation after which the surface of a panel has failed.

Main results:

- `PanelStep.keeps_failed`: no step other than closing the panel ends the failure, and none posts
  anything.
- `History.failed_surface_stays_failed`: the same for runs.
-/

namespace ModelPreview

open PreviewEvent

/-! ## Announcements with another version -/

/-- A text announces a surface that speaks another version. -/
def SurfaceMessage.Mismatches (payload : String) : Prop :=
  ∃ version, decode payload = .ok (.ready version) ∧ version ≠ protocolVersion

namespace HostBridge

variable {κ : Type} {b : HostBridge κ} {l : Link} {payload : String}

theorem handlePayload_of_mismatches (b : HostBridge κ) (l : Link)
    (h : SurfaceMessage.Mismatches payload) :
    ∃ found, (b.handlePayload l payload).value.result =
      .error (.versionMismatch protocolVersion found) := by
  rcases h with ⟨version, hdecode, hversion⟩
  refine ⟨version, ?_⟩
  simp [handlePayload, hdecode, handleReady, hversion, Except.map]

theorem handleAll_cons_of_error {rest : List String} {e : ProtocolError}
    (h : (b.handlePayload (l.setInbox .host { l.host with unread := rest }) payload).value.result =
      .error e) :
    (b.handleAll l (payload :: rest)).value =
      (b.handlePayload (l.setInbox .host { l.host with unread := rest }) payload).value := by
  rw [handleAll]
  simp only [Logged.value_bind, h]
  rfl

theorem handleAll_cons_of_ok {rest : List String} {n : Nat}
    (h : (b.handlePayload (l.setInbox .host { l.host with unread := rest }) payload).value.result =
      .ok n) :
    let step := (b.handlePayload (l.setInbox .host { l.host with unread := rest }) payload).value
    let after := (step.bridge.handleAll step.link rest).value
    (b.handleAll l (payload :: rest)).value.link = after.link ∧
      (b.handleAll l (payload :: rest)).value.result = after.result.map (n + ·) := by
  rw [handleAll]
  simp only [Logged.value_bind, h]
  exact ⟨rfl, rfl⟩

/-- If an announcement with another version is among the texts that a bridge takes, then it fails for
that reason. -/
theorem handleAll_of_mismatches {payloads taken : List String} (hdrained : b.Drained l)
    (hunread : l.host.unread = payloads)
    (htaken : payloads = taken ++ (b.handleAll l payloads).value.link.host.unread)
    (hmem : payload ∈ taken) (h : SurfaceMessage.Mismatches payload) :
    ∃ found, (b.handleAll l payloads).value.result =
      .error (.versionMismatch protocolVersion found) := by
  induction payloads generalizing b l taken with
  | nil =>
    have hnil : taken = [] := (List.append_eq_nil_iff.1 htaken.symm).1
    rw [hnil] at hmem
    cases hmem
  | cons first rest ih =>
    obtain ⟨hbacklog, hlink⟩ := (b.hears_handlePayload
      (l.setInbox .host { l.host with unread := rest }) first).of_drained hdrained
    cases hresult : (b.handlePayload (l.setInbox .host { l.host with unread := rest })
      first).value.result with
    | error e =>
      -- The bridge has stopped at this text, so it is the only one taken.
      rw [handleAll_cons_of_error hresult, hlink] at htaken
      rw [handleAll_cons_of_error hresult]
      have hone : taken = [first] := List.append_cancel_right (htaken.symm.trans rfl)
      rw [hone, List.mem_singleton] at hmem
      exact handlePayload_of_mismatches b _ (hmem ▸ h)
    | ok n =>
      obtain ⟨hafter, hmap⟩ := handleAll_cons_of_ok hresult
      rw [hafter] at htaken
      rcases List.cons_eq_append_iff.1 htaken with ⟨rfl, -⟩ | ⟨taken', rfl, hrest⟩
      · cases hmem
      · rcases List.mem_cons.1 hmem with rfl | hmem
        · rcases handlePayload_of_mismatches b (l.setInbox .host { l.host with unread := rest }) h
            with ⟨found, hfound⟩
          rw [hresult] at hfound
          cases hfound
        · have hdrained' : HostBridge.Drained
              (b.handlePayload (l.setInbox .host { l.host with unread := rest }) first).value.bridge
              (b.handlePayload (l.setInbox .host { l.host with unread := rest })
                first).value.link := by
            rw [HostBridge.Drained, hbacklog, hlink]
            exact hdrained
          rcases ih hdrained' (by rw [hlink]; rfl) hrest hmem with ⟨found, hfound⟩
          refine ⟨found, ?_⟩
          rw [hmap, hfound]
          rfl

end HostBridge

/-! ## Sessions -/

namespace PreviewSession

/-- The surface of a session has failed: the status tells why and no model is held. -/
structure Failed (s : PreviewSession) : Prop where
  error : s.surfaceError.isSome = true
  status : ∃ reason, s.status = .unavailable reason
  pending : s.pendingModel = none

variable {s : PreviewSession}

theorem failed_failSurface (s : PreviewSession) (reason : String) : (s.failSurface reason).Failed :=
  ⟨rfl, ⟨reason, rfl⟩, rfl⟩

theorem Failed.setStatus (h : s.Failed) (status : PreviewStatus) : s.setStatus status = s := by
  have herr : s.surfaceError.isNone = false := by simpa using h.error
  simp [PreviewSession.setStatus, herr]

theorem Failed.sendable? (h : s.Failed) : s.sendable? = none := by
  simp [PreviewSession.sendable?, h.pending]

theorem Failed.sentTexts (h : s.Failed) : s.sentTexts = [] := by
  simp [PreviewSession.sentTexts, h.sendable?]

theorem Failed.flush (h : s.Failed) (p : Panel) : (s.flush p).value.1 = s := by
  simp [flush_value, h.sendable?]

theorem Failed.expect (h : s.Failed) (id : Nat) (uri : String) : (s.expect id uri).Failed := by
  have hchanged : Failed { s with latestRequest := some id, document := some uri } :=
    ⟨h.error, h.status, h.pending⟩
  rw [PreviewSession.expect, hchanged.setStatus]
  exact hchanged

theorem Failed.noted (h : s.Failed) : s.noted.Failed := by
  rcases noted_eq s with ⟨reason, hnoted⟩ | hnoted
  · rw [hnoted]
    exact failed_failSurface _ reason
  · rw [hnoted]
    exact ⟨h.error, h.status, h.pending⟩

/-- A session that takes an announcement with another version has failed. -/
theorem failed_noted_of_mismatches (hdrained : s.Drained) {taken : List String} {payload : String}
    (htaken : s.link.host.unread = taken ++ s.noted.link.host.unread) (hmem : payload ∈ taken)
    (h : SurfaceMessage.Mismatches payload) : s.noted.Failed := by
  have hlink : s.noted.link = (s.bridge.pump s.link).value.link := by
    unfold noted
    dsimp only
    split <;> rfl
  rw [hlink] at htaken
  rcases HostBridge.handleAll_of_mismatches hdrained rfl htaken hmem h with ⟨found, hfound⟩
  have hpump : (s.bridge.pump s.link).value.result =
      .error (.versionMismatch protocolVersion found) := hfound
  rw [noted, hpump]
  exact failed_failSurface _ _

theorem host_flush (s : PreviewSession) (p : Panel) :
    (s.flush p).value.1.link.host = s.link.host := by
  rcases flush_eq s p with ⟨bridge, surface, pending, status, h⟩
  rw [h]
  rfl

end PreviewSession

/-! ## Steps -/

open PreviewSession in
/-- A failed surface stays failed in every step but the end of its panel, and nothing is posted to
it. -/
theorem PanelStep.keeps_failed {root : String} {p : Panel} {cause : PanelCause} {s : PreviewSession}
    {new : List PreviewEvent} {o : Option PreviewSession}
    (hstep : PanelStep root p cause (some s) new o) (hcause : cause ≠ .operation (.closePanel p))
    (h : s.Failed) : (∃ s', o = some s' ∧ s'.Failed) ∧ postedTo p new = [] := by
  cases hstep with
  | idle => exact ⟨⟨s, rfl, h⟩, rfl⟩
  | expected _ id uri => exact ⟨⟨_, rfl, h.expect id uri⟩, rfl⟩
  | closed => exact absurd rfl hcause
  | failed _ reason => exact ⟨⟨_, rfl, failed_failSurface s reason⟩, rfl⟩
  | acted _ act => exact ⟨⟨_, rfl, h.error, h.status, h.pending⟩, rfl⟩
  | shaken =>
    rw [h.noted.sentTexts, h.noted.flush]
    exact ⟨⟨_, rfl, h.noted⟩, rfl⟩
  | held _ r model hlatest hok herr =>
    have herror := h.error
    rw [herr] at herror
    cases herror
  | dropped _ r => exact ⟨⟨_, rfl, h.error, h.status, h.pending⟩, rfl⟩
  | refused _ r e =>
    have hanswered : Failed { s with latestRequest := none, pendingModel := none } :=
      ⟨h.error, h.status, rfl⟩
    rw [hanswered.setStatus]
    exact ⟨⟨_, rfl, hanswered⟩, rfl⟩

/-- Answers do not touch what the surface has posted. -/
theorem PanelStep.host_of_answer {root : String} {p : Panel} {r : Response} {s : PreviewSession}
    {new : List PreviewEvent} {o : Option PreviewSession}
    (hstep : PanelStep root p (.answer r) (some s) new o) :
    ∃ s', o = some s' ∧ s'.link.host = s.link.host := by
  cases hstep with
  | idle => exact ⟨s, rfl, rfl⟩
  | held _ _ model =>
    refine ⟨_, rfl, ?_⟩
    rw [PreviewSession.host_flush, PreviewSession.link_holding]
  | dropped => exact ⟨_, rfl, rfl⟩
  | refused _ _ e =>
    refine ⟨_, rfl, ?_⟩
    unfold PreviewSession.setStatus
    split <;> rfl

/-! ## Runs -/

namespace History

variable {root : String} {h : History} {p : Panel}

/-- The surface of a panel has failed and a certain number of texts has been posted to it. -/
def FailedWith (p : Panel) (texts : List String) (o : Option PreviewSession)
    (es : List PreviewEvent) : Prop :=
  (∃ s, o = some s ∧ s.Failed) ∧ postedTo p es = texts

theorem FailedWith.step {texts : List String} {cause : PanelCause} {o o' : Option PreviewSession}
    {new es : List PreviewEvent} (hcause : cause ≠ .operation (.closePanel p))
    (hstep : PanelStep root p cause o new o') (h : FailedWith p texts o es) :
    FailedWith p texts o' (es ++ new) := by
  rcases h with ⟨⟨s, rfl, hs⟩, htexts⟩
  rcases hstep.keeps_failed hcause hs with ⟨hs', hnew⟩
  refine ⟨hs', ?_⟩
  rw [postedTo_append, htexts, hnew, List.append_nil]

/-- An operation after which the surface of an open panel has failed: the failure is reported, or a
pump takes an announcement with another version. -/
inductive SurfaceFails (h : History) (p : Panel) : ControllerOp → Prop where
  /-- The failure is reported. -/
  | reported (s : PreviewSession) (reason : String) (hs : h.controller.sessions.find? p = some s) :
    SurfaceFails h p (.surfaceFailed p reason)
  /-- Among the texts that a pump takes is an announcement with another version. -/
  | mismatched (s s' : PreviewSession) (responses : List Response) (taken : List String)
      (payload : String) (hs : h.controller.sessions.find? p = some s)
      (hs' : (h.step (.pump responses)).controller.sessions.find? p = some s')
      (htaken : s.link.host.unread = taken ++ s'.link.host.unread) (hmem : payload ∈ taken)
      (hmismatch : SurfaceMessage.Mismatches payload) :
    SurfaceFails h p (.pump responses)

/-- The handshakes of a pump that takes an announcement with another version already fail the
surface. -/
theorem failedWith_handshakes_of_mismatches {s s' : PreviewSession} {responses : List Response}
    {taken : List String} {payload : String} (hb : h.Bookkept) (hp : h.Provenance root)
    (hs : h.controller.sessions.find? p = some s)
    (hs' : (h.step (.pump responses)).controller.sessions.find? p = some s')
    (htaken : s.link.host.unread = taken ++ s'.link.host.unread) (hmem : payload ∈ taken)
    (hmismatch : SurfaceMessage.Mismatches payload) :
    FailedWith p (postedTo p h.events) (h.handshakes.controller.sessions.find? p)
      (eventsOf p h.handshakes.events) := by
  have hdrained := (hp.sessions p s hs).drained
  obtain ⟨hshaken, hevents⟩ := handshakes_of_find? hs hdrained
  -- Answers take nothing, so all that the pump has taken was taken in the handshake.
  have hkept := foldl_answer_panel_induction (fun cause => ∃ r, cause = .answer r)
    (fun o _ => ∃ t, o = some t ∧ t.link.host = (s.noted.flush p).value.1.link.host)
    (fun cause o new o' es hcause hstep hP => by
      rcases hcause with ⟨r, rfl⟩
      rcases hP with ⟨t, rfl, ht⟩
      rcases hstep.host_of_answer with ⟨t', ho', ht'⟩
      exact ⟨t', ho', ht'.trans ht⟩)
    responses (fun r => ⟨r, rfl⟩) hb.handshakes hp.handshakes ⟨_, hshaken, rfl⟩
  rcases hkept with ⟨t, ht, hhost⟩
  have htt : t = s' := Option.some.inj (ht.symm.trans hs')
  subst htt
  rw [hhost, PreviewSession.host_flush] at htaken
  have hfailed := PreviewSession.failed_noted_of_mismatches hdrained htaken hmem hmismatch
  refine ⟨⟨_, hshaken, ?_⟩, ?_⟩
  · rw [hfailed.flush]
    exact hfailed
  · rw [hevents, hfailed.sentTexts, List.map_nil, List.append_nil, postedTo_eventsOf]

/-- The state after an operation that fails the surface: nothing has been posted in it. -/
theorem failedWith_step_of_surfaceFails {op : ControllerOp} (hb : h.Bookkept)
    (hp : h.Provenance root) (hfails : h.SurfaceFails p op) :
    FailedWith p (postedTo p h.events) ((h.step op).controller.sessions.find? p)
      (eventsOf p (h.step op).events) := by
  cases hfails with
  | reported s reason hs =>
    have hfind : (h.step (.surfaceFailed p reason)).controller.sessions.find? p =
        some (s.failSurface reason) := by
      rw [step, Controller.find?_surfaceFailed, if_pos rfl, hs]
      rfl
    exact ⟨⟨_, hfind, PreviewSession.failed_failSurface s reason⟩, postedTo_eventsOf p h.events⟩
  | mismatched s s' responses taken payload hs hs' htaken hmem hmismatch =>
    exact foldl_answer_panel_induction (· ≠ .operation (.closePanel p))
      (FailedWith p (postedTo p h.events))
      (fun _ _ _ _ _ hcause hstep hP => hP.step hcause hstep) responses (by simp) hb.handshakes
      hp.handshakes
      (failedWith_handshakes_of_mismatches hb hp hs hs' htaken hmem hmismatch)

/-- Once the surface of an open panel has failed, in every later state of the run until the panel is
closed the panel shows why, holds no model, and nothing has been posted to it any more. -/
theorem failed_surface_stays_failed (root : String) (ops rest : List ControllerOp)
    (op : ControllerOp) (p : Panel) (hfails : (run root ops).SurfaceFails p op)
    (hopen : .closePanel p ∉ rest) :
    let h := run root (ops ++ op :: rest)
    (∃ s reason, h.controller.sessions.find? p = some s ∧ s.status = .unavailable reason ∧
      s.pendingModel = none) ∧
    postedTo p h.events = postedTo p (run root ops).events := by
  intro h
  obtain ⟨hb, hp⟩ := run_provenance root ops
  obtain ⟨hb', hp'⟩ := run_provenance root (ops ++ [op])
  have hop : run root (ops ++ [op]) = (run root ops).step op := by simp [run]
  have hrest : h = rest.foldl step (run root (ops ++ [op])) := by simp [h, run]
  have hfailed : FailedWith p (postedTo p (run root ops).events)
      (h.controller.sessions.find? p) (eventsOf p h.events) := by
    rw [hrest]
    apply foldl_panel_induction (· ≠ .operation (.closePanel p))
      (FailedWith p (postedTo p (run root ops).events))
      (fun _ _ _ _ _ hcause hstep hP => hP.step hcause hstep) rest (by simp) (by simp) ?_ hb' hp'
    · rw [hop]
      exact failedWith_step_of_surfaceFails hb hp hfails
    · intro op' hop' heq
      cases heq
      exact hopen hop'
  rcases hfailed with ⟨⟨s, hs, hfailed⟩, htexts⟩
  rcases hfailed.status with ⟨reason, hreason⟩
  rw [postedTo_eventsOf] at htexts
  exact ⟨⟨s, reason, hs, hreason, hfailed.pending⟩, htexts⟩

/-- A surface that announces itself with another version and then with the right one. -/
def mismatchingOps : List ControllerOp :=
  [.openPreview 1 .fresh "a.json",
    .surface 1 (.post (SurfaceMessage.ready 2).encode),
    .surface 1 (.post SurfaceMessage.current.encode)]

/-- The pump that takes the first announcement, with an answer ready. -/
def mismatchingPump : ControllerOp := .pump [⟨1, .ok { elements := [] }⟩]

/-- The second announcement is taken only by the next pump. -/
theorem hostTexts_mismatchingOps :
    ((run "/pack" mismatchingOps).controller.sessions.find? 1).map (·.link.host.unread) =
        some [(SurfaceMessage.ready 2).encode, SurfaceMessage.current.encode] ∧
      (((run "/pack" mismatchingOps).step mismatchingPump).controller.sessions.find? 1).map
        (·.link.host.unread) = some [SurfaceMessage.current.encode] := by
  decide +kernel

theorem surfaceFails_mismatchingOps :
    (run "/pack" mismatchingOps).SurfaceFails 1 mismatchingPump := by
  rcases Option.map_eq_some_iff.1 hostTexts_mismatchingOps.1 with ⟨s, hs, hunread⟩
  rcases Option.map_eq_some_iff.1 hostTexts_mismatchingOps.2 with ⟨s', hs', hunread'⟩
  refine .mismatched s s' _ [(SurfaceMessage.ready 2).encode] _ hs hs' ?_
    (List.mem_singleton_self _) ?_
  · rw [hunread, hunread']
    rfl
  · exact ⟨2, by cbv, by decide⟩

/-- The second announcement makes the bridge ready, and another answer comes in. -/
def recoveringOps : List ControllerOp :=
  [.pump [], .documentChanged 1 "b.json", .pump [⟨2, .ok { elements := [] }⟩]]

/-- The panel stays failed although its bridge has become ready. -/
theorem ready_surface_stays_failed :
    let h := run "/pack" (mismatchingOps ++ mismatchingPump :: recoveringOps)
    ((∃ s reason, h.controller.sessions.find? 1 = some s ∧ s.status = .unavailable reason ∧
        s.pendingModel = none) ∧
      postedTo 1 h.events = postedTo 1 (run "/pack" mismatchingOps).events) ∧
    (h.controller.sessions.find? 1).map (·.bridge.ready) = some true :=
  ⟨failed_surface_stays_failed "/pack" mismatchingOps recoveringOps mismatchingPump 1
      surfaceFails_mismatchingOps (by simp [recoveringOps]),
    by decide +kernel⟩

end History
end ModelPreview
