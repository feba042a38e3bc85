import Mathlib
import ModelPreview.Proofs.Preview.FailedSurface

/-!
# Quiet panels

A panel is quiet when none of its requests is in flight.  Its session has then accepted the answer to
the last request issued for it, and since then the model of that answer has been posted once, or it is
held and has not been posted, or the panel is unavailable.  Whatever model was held before has been
overwritten or dropped by the answer.

Main definitions:

- `History.lastRequest`: the request that a run has issued last for a panel.
- `PreviewSession.Outcome`: what has become of the last answer of a session.

Main results:

- `PanelStep.settled`: every step keeps track of what has become of the last answer.
- `History.quiet_panel_shows_document`: what a quiet panel shows.
-/

namespace ModelPreview

open PreviewEvent

/-! ## The last answer of a session -/

/-- The text that posts the model of an answer. -/
def modelText (root : String) (model : Model) : String :=
  (RenderMessage.renderModel (model.resolve root).value.model).encode

namespace PreviewSession

/-- What has become of an answer after some texts have been posted. -/
inductive Outcome (root : String) (r : Response) (s : PreviewSession) : List String → Prop where
  /-- Its model has been posted. -/
  | shown (model : Model) (hok : r.result = .ok model) (hstatus : s.status = .showing)
      (hpending : s.pendingModel = none) : Outcome root r s [modelText root model]
  /-- Its model is held and has not been posted. -/
  | held (model : Model) (hok : r.result = .ok model) (hstatus : s.status = .waiting)
      (hpending : s.pendingModel = some (model.resolve root).value.model) : Outcome root r s []
  /-- There is nothing to show. -/
  | unavailable (reason : String) (texts : List String) (hstatus : s.status = .unavailable reason)
      (hpending : s.pendingModel = none) : Outcome root r s texts

variable {root : String} {r : Response} {s s' : PreviewSession} {texts : List String}

/-- Only the status and the held model matter. -/
theorem Outcome.congr (h : s.Outcome root r texts) (hstatus : s'.status = s.status)
    (hpending : s'.pendingModel = s.pendingModel) : s'.Outcome root r texts := by
  cases h with
  | shown model hok hs hp => exact .shown model hok (hstatus.trans hs) (hpending.trans hp)
  | held model hok hs hp => exact .held model hok (hstatus.trans hs) (hpending.trans hp)
  | unavailable reason _ hs hp =>
    exact .unavailable reason texts (hstatus.trans hs) (hpending.trans hp)

theorem Failed.outcome (h : s.Failed) (r : Response) (texts : List String) :
    s.Outcome root r texts := by
  rcases h.status with ⟨reason, hreason⟩
  exact .unavailable reason texts hreason h.pending

theorem Outcome.noted (h : s.Outcome root r texts) : s.noted.Outcome root r texts := by
  rcases noted_eq s with ⟨reason, hnoted⟩ | hnoted
  · rw [hnoted]
    exact (failed_failSurface _ reason).outcome r texts
  · rw [hnoted]
    exact h.congr rfl rfl

/-- A held model is posted at most once, when it is sent. -/
theorem Outcome.flush (h : s.Outcome root r texts) (p : Panel) :
    (s.flush p).value.1.Outcome root r (texts ++ s.sentTexts) := by
  rw [flush_value, PreviewSession.sentTexts]
  cases hsend : s.sendable? with
  | none =>
    rw [List.append_nil]
    exact h
  | some m =>
    have hheld : s.pendingModel = some m := (sendable?_eq_some_iff.1 hsend).1
    cases h with
    | shown model hok hstatus hpending =>
      rw [hpending] at hheld
      cases hheld
    | unavailable reason _ hstatus hpending =>
      rw [hpending] at hheld
      cases hheld
    | held model hok hstatus hpending =>
      rw [hpending] at hheld
      cases hheld
      by_cases hgone : s.link.surface.isOpen = true
      · have hshown : (s.afterSending (model.resolve root).value.model).status = .showing := by
          simp [afterSending, hgone]
        simpa [hgone, modelText] using Outcome.shown model hok hshown (pendingModel_afterSending s _)
      · have hlost : (s.afterSending (model.resolve root).value.model).status =
            .unavailable ProtocolError.disconnected.message := by
          simp [afterSending, hgone]
        exact .unavailable _ _ hlost (pendingModel_afterSending s _)

/-! ## Sessions after any steps -/

/-- What a session and the events of its panel have to do with each other. -/
structure Settled (root : String) (p : Panel) (es : List PreviewEvent) (s : PreviewSession) :
    Prop where
  /-- A session with an error has failed. -/
  failed : s.surfaceError.isSome = true → s.Failed
  /-- It waits for nothing but the latest request. -/
  latest : ∀ id, s.latestRequest = some id → latestIssued p es = some id
  /-- If it waits for nothing, then the latest request has been answered, and since then some texts
  have been posted and nothing else has happened. -/
  outcome : s.latestRequest = none → ∃ before r texts,
    es = before ++ answered p r :: texts.map (posted p) ∧ latestIssued p before = some r.id ∧
      s.Outcome root r texts

variable {p : Panel} {es : List PreviewEvent}

/-- A session that waits for a request just issued. -/
theorem settled_expect (hfailed : s.surfaceError.isSome = true → s.Failed) (id : Nat) (uri : String) :
    (s.expect id uri).Settled root p (es ++ [issued p id]) where
  failed herr := by
    have hsame : (s.expect id uri).surfaceError = s.surfaceError := by
      unfold PreviewSession.expect setStatus
      split <;> rfl
    rw [hsame] at herr
    exact (hfailed herr).expect id uri
  latest id' hlatest := by
    rw [Controller.latestRequest_expect] at hlatest
    rw [latestIssued_append_issued, hlatest]
  outcome hnone := by
    rw [Controller.latestRequest_expect] at hnone
    cases hnone

/-- A session that has just used an answer. -/
theorem settled_answered (texts : List String) (hfailed : s.surfaceError.isSome = true → s.Failed)
    (hnone : s.latestRequest = none) (hlatest : latestIssued p es = some r.id)
    (houtcome : s.Outcome root r texts) :
    s.Settled root p (es ++ answered p r :: texts.map (posted p)) where
  failed := hfailed
  latest id hid := by
    rw [hnone] at hid
    cases hid
  outcome _ := ⟨es, r, texts, rfl, hlatest, houtcome⟩

/-- A session that has changed without an answer or a request. -/
theorem Settled.change (h : s.Settled root p es) (texts : List String)
    (hfailed : s'.surfaceError.isSome = true → s'.Failed)
    (hlatest : s'.latestRequest = s.latestRequest)
    (houtcome : ∀ r sent, s.Outcome root r sent → s'.Outcome root r (sent ++ texts)) :
    s'.Settled root p (es ++ texts.map (posted p)) where
  failed := hfailed
  latest id hid := by
    rw [latestIssued_append_of_forall (by simp)]
    exact h.latest id (hlatest ▸ hid)
  outcome hnone := by
    rcases h.outcome (hlatest ▸ hnone) with ⟨before, r, sent, rfl, hissued, hsent⟩
    refine ⟨before, r, sent ++ texts, ?_, hissued, houtcome r sent hsent⟩
    rw [List.map_append, List.append_assoc, List.cons_append]

theorem surfaceError_flush (s : PreviewSession) (p : Panel) :
    (s.flush p).value.1.surfaceError = s.surfaceError := by
  rcases flush_eq s p with ⟨bridge, surface, pending, status, h⟩
  rw [h]

theorem failed_flush (hfailed : s.surfaceError.isSome = true → s.Failed) (p : Panel) :
    (s.flush p).value.1.surfaceError.isSome = true → (s.flush p).value.1.Failed := by
  intro herr
  rw [surfaceError_flush] at herr
  rw [(hfailed herr).flush]
  exact hfailed herr

theorem failed_noted (hfailed : s.surfaceError.isSome = true → s.Failed) :
    s.noted.surfaceError.isSome = true → s.noted.Failed := by
  intro herr
  rcases noted_eq s with ⟨reason, hnoted⟩ | hnoted
  · rw [hnoted]
    exact failed_failSurface _ reason
  · rw [hnoted] at herr
    exact (hfailed herr).noted

end PreviewSession

open PreviewSession in
theorem PanelStep.settled {root : String} {p : Panel} {cause : PanelCause}
    {o o' : Option PreviewSession} {new es : List PreviewEvent}
    (hstep : PanelStep root p cause o new o') (h : ∀ s, o = some s → s.Settled root p es) :
    ∀ s', o' = some s' → s'.Settled root p (es ++ new) := by
  intro s' ho'
  cases hstep with
  | idle =>
    rw [List.append_nil]
    exact h s' ho'
  | opened link id uri =>
    cases ho'
    exact settled_expect (by simp) id uri
  | expected s id uri =>
    cases ho'
    exact settled_expect (h s rfl).failed id uri
  | closed => cases ho'
  | failed s reason =>
    cases ho'
    exact (h s rfl).change [] (fun _ => failed_failSurface s reason) rfl
      fun r sent _ => (failed_failSurface s reason).outcome r _
  | acted s act =>
    cases ho'
    refine (h s rfl).change [] ?_ rfl ?_
    · intro herr
      have hfailed := (h s rfl).failed herr
      exact ⟨hfailed.error, hfailed.status, hfailed.pending⟩
    · intro r sent hsent
      rw [List.append_nil]
      exact hsent.congr rfl rfl
  | shaken s =>
    cases ho'
    refine (h s rfl).change _ (failed_flush (failed_noted (h s rfl).failed) p) ?_ ?_
    · rw [latestRequest_flush, latestRequest_noted]
    · intro r sent hsent
      exact hsent.noted.flush p
  | held s r model hlatest hok herr =>
    cases ho'
    have hnone : (s.holding (model.resolve root).value.model).latestRequest = none := by
      simp [holding, PreviewSession.setStatus, herr]
    have hwaiting : (s.holding (model.resolve root).value.model).Outcome root r [] :=
      .held model hok (by simp [holding, PreviewSession.setStatus, herr])
        (by simp [holding, PreviewSession.setStatus, herr])
    refine settled_answered _ ?_ ?_ ((h s rfl).latest _ hlatest) (hwaiting.flush p)
    · apply failed_flush
      simp [holding, PreviewSession.setStatus, herr]
    · rw [latestRequest_flush, hnone]
  | dropped s r model hlatest hok herr =>
    cases ho'
    -- The surface has failed before, which already accounts for the status.
    have hfailed := (h s rfl).failed herr
    have hanswered : Failed { s with latestRequest := none } :=
      ⟨hfailed.error, hfailed.status, hfailed.pending⟩
    exact settled_answered [] (fun _ => hanswered) rfl ((h s rfl).latest _ hlatest)
      (hanswered.outcome r [])
  | refused s r e hlatest herror =>
    cases ho'
    have hissued := (h s rfl).latest _ hlatest
    -- The status of a failed surface stays; otherwise it tells of the error.
    by_cases herr : s.surfaceError.isSome = true
    · have hfailed := (h s rfl).failed herr
      have hanswered : Failed { s with latestRequest := none, pendingModel := none } :=
        ⟨hfailed.error, hfailed.status, rfl⟩
      rw [hanswered.setStatus]
      exact settled_answered [] (fun _ => hanswered) rfl hissued (hanswered.outcome r [])
    · have hset : PreviewSession.setStatus { s with latestRequest := none, pendingModel := none }
          (.unavailable e.message) = { s with
            latestRequest := none, pendingModel := none, status := .unavailable e.message } := by
        simp only [PreviewSession.setStatus, Option.isNone_iff_eq_none]
        rw [if_pos (by simpa using herr)]
      rw [hset]
      exact settled_answered [] (fun hsome => absurd hsome herr) rfl hissued
        (.unavailable _ _ rfl rfl)

/-! ## The last request of a panel -/

/-- The request that an operation issues for a panel. -/
def Controller.requestFor (c : Controller) (p : Panel) : ControllerOp → Option Request
  | .openPreview q link uri => if q = p then some (c.openPreview q link uri).value.request else none
  | .documentChanged q uri => if q = p then (c.documentChanged q uri).value.2 else none
  | _ => none

theorem Controller.uri_of_requestFor {c : Controller} {p : Panel} {op : ControllerOp} {uri : String}
    {q : Request} (hop : (∃ link, op = .openPreview p link uri) ∨ op = .documentChanged p uri)
    (h : c.requestFor p op = some q) : q.uri = uri := by
  rcases hop with ⟨link, rfl⟩ | rfl
  · rw [requestFor, if_pos rfl, openPreview_request] at h
    cases h
    rfl
  · rw [requestFor, if_pos rfl, documentChanged] at h
    split at h
    · cases h
      rfl
    · cases h

/-- Only operations issue requests. -/
theorem PanelStep.not_issued {root : String} {p : Panel} {cause : PanelCause}
    {o o' : Option PreviewSession} {new : List PreviewEvent}
    (hstep : PanelStep root p cause o new o') (hcause : ∀ op, cause ≠ .operation op) (id : Nat) :
    issued p id ∉ new := by
  cases hstep with
  | idle => simp
  | shaken s => simp
  | held s r model => simp
  | dropped s r => simp
  | refused s r => simp
  | opened => exact absurd rfl (hcause _)
  | expected => exact absurd rfl (hcause _)
  | closed => exact absurd rfl (hcause _)
  | failed => exact absurd rfl (hcause _)
  | acted => exact absurd rfl (hcause _)

namespace PreviewSession

variable (s : PreviewSession)

@[simp]
theorem document_setStatus (status : PreviewStatus) : (s.setStatus status).document = s.document := by
  unfold setStatus
  split <;> rfl

@[simp]
theorem document_flush (p : Panel) : (s.flush p).value.1.document = s.document := by
  rcases flush_eq s p with ⟨bridge, surface, pending, status, h⟩
  rw [h]

@[simp]
theorem document_noted : s.noted.document = s.document := by
  rcases noted_eq s with ⟨reason, hnoted⟩ | hnoted
  · rw [hnoted]
    rfl
  · rw [hnoted]

end PreviewSession

/-- A step that issues no request leaves the document of a session alone. -/
theorem PanelStep.document_eq {root : String} {p : Panel} {cause : PanelCause}
    {o : Option PreviewSession} {new : List PreviewEvent} {s' : PreviewSession}
    (hstep : PanelStep root p cause o new (some s')) (hnew : ∀ id, issued p id ∉ new) :
    ∃ s, o = some s ∧ s'.document = s.document := by
  cases hstep with
  | idle => exact ⟨s', rfl, rfl⟩
  | opened link id => exact absurd List.mem_cons_self (hnew id)
  | expected s id => exact absurd List.mem_cons_self (hnew id)
  | failed s reason => exact ⟨s, rfl, rfl⟩
  | acted s act => exact ⟨s, rfl, rfl⟩
  | shaken s => exact ⟨s, rfl, by simp⟩
  | held s r model => exact ⟨s, rfl, by simp [PreviewSession.holding]⟩
  | dropped s => exact ⟨s, rfl, rfl⟩
  | refused s r e => exact ⟨s, rfl, by simp⟩

/-- A step that issues a request sets the document of the session. -/
theorem PanelStep.document_of_issued {root : String} {p : Panel} {op : ControllerOp}
    {o : Option PreviewSession} {id : Nat} {s' : PreviewSession}
    (hstep : PanelStep root p (.operation op) o [issued p id] (some s')) :
    ∃ uri, s'.document = some uri ∧
      ((∃ link, op = .openPreview p link uri) ∨ op = .documentChanged p uri) := by
  cases hstep with
  | opened link _ uri => exact ⟨uri, by simp [PreviewSession.expect], Or.inl ⟨link, rfl⟩⟩
  | expected s _ uri hop => exact ⟨uri, by simp [PreviewSession.expect], hop⟩

namespace History

/-- The requests that operations issue for a panel, oldest first. -/
def requestsFor (p : Panel) (h : History) : List ControllerOp → List Request
  | [] => []
  | op :: ops => (h.controller.requestFor p op).toList ++ (h.step op).requestsFor p ops

/-- The request that a run has issued last for a panel. -/
def lastRequest (root : String) (ops : List ControllerOp) (p : Panel) : Option Request :=
  ((start root).requestsFor p ops).getLast?

variable {root : String} {h : History} {p : Panel} {ops : List ControllerOp}

theorem requestsFor_append (p : Panel) (h : History) (ops : List ControllerOp) (op : ControllerOp) :
    h.requestsFor p (ops ++ [op]) =
      h.requestsFor p ops ++ ((ops.foldl step h).controller.requestFor p op).toList := by
  induction ops generalizing h with
  | nil => simp [requestsFor]
  | cons first ops ih => simp [requestsFor, ih]

theorem lastRequest_append (root : String) (ops : List ControllerOp) (op : ControllerOp) (p : Panel) :
    lastRequest root (ops ++ [op]) p =
      ((run root ops).controller.requestFor p op).or (lastRequest root ops p) := by
  have hrun : ops.foldl step (start root) = run root ops := rfl
  rw [lastRequest, requestsFor_append, List.getLast?_append, hrun]
  cases (run root ops).controller.requestFor p op with
  | none => rfl
  | some q => rfl

/-- The events of a panel tell of the requests issued for it. -/
theorem eventsOf_step (h : History) (op : ControllerOp) (hop : ∀ responses, op ≠ .pump responses)
    (p : Panel) : eventsOf p (h.step op).events = eventsOf p h.events ++
      ((h.controller.requestFor p op).map fun q => issued p q.id).toList := by
  cases op with
  | openPreview q link uri =>
    by_cases hq : q = p
    · simp [step, Controller.requestFor, eventsOf, panel, hq]
    · simp [step, Controller.requestFor, eventsOf, panel, hq]
  | documentChanged q uri =>
    by_cases hq : q = p
    · subst hq
      cases hrequest : (h.controller.documentChanged q uri).value.2 with
      | none => simp [step, Controller.requestFor, hrequest]
      | some r => simp [step, Controller.requestFor, hrequest, eventsOf, panel]
    · cases hrequest : (h.controller.documentChanged q uri).value.2 with
      | none => simp [step, Controller.requestFor, hrequest, hq]
      | some r => simp [step, Controller.requestFor, hrequest, hq, eventsOf, panel]
  | closePanel q => simp [step, Controller.requestFor]
  | surfaceFailed q reason => simp [step, Controller.requestFor]
  | pump responses => exact absurd rfl (hop responses)
  | surface q act => simp [step, Controller.requestFor]

/-- The session of a panel shows the document of the last request. -/
def Documented (p : Panel) (last : Option Request) (o : Option PreviewSession)
    (es : List PreviewEvent) : Prop :=
  ∀ s, o = some s → ∃ q, last = some q ∧ s.document = some q.uri ∧ latestIssued p es = some q.id

theorem Documented.step {cause : PanelCause} {last : Option Request} {o o' : Option PreviewSession}
    {new es : List PreviewEvent} (h : Documented p last o es)
    (hstep : PanelStep root p cause o new o') (hnew : ∀ id, issued p id ∉ new) :
    Documented p last o' (es ++ new) := by
  intro s' ho'
  subst ho'
  rcases hstep.document_eq hnew with ⟨s, rfl, hdocument⟩
  rcases h s rfl with ⟨q, hq, huri, hlatest⟩
  refine ⟨q, hq, hdocument.trans huri, ?_⟩
  rw [latestIssued_append_of_forall hnew, hlatest]

theorem documented_step (op : ControllerOp) (hop : ∀ responses, op ≠ .pump responses)
    {last : Option Request}
    (hd : Documented p last (h.controller.sessions.find? p) (eventsOf p h.events)) :
    Documented p ((h.controller.requestFor p op).or last)
      ((h.step op).controller.sessions.find? p) (eventsOf p (h.step op).events) := by
  have hsteps : PanelSteps h.controller.root p (.operation op) h (h.step op) :=
    panelStep_step h op hop p
  rcases hsteps with ⟨new, hevents, hstep⟩
  have hnew := List.append_cancel_left (hevents.symm.trans (eventsOf_step h op hop p))
  subst hnew
  rw [hevents]
  cases hrequest : h.controller.requestFor p op with
  | none =>
    rw [hrequest] at hstep
    exact hd.step hstep (by simp)
  | some q =>
    rw [hrequest] at hstep
    intro s' hs'
    rw [hs'] at hstep
    rcases hstep.document_of_issued with ⟨uri, hdocument, hasked⟩
    refine ⟨q, rfl, ?_, latestIssued_append_issued p q.id _⟩
    rw [hdocument, Controller.uri_of_requestFor hasked hrequest]

/-- In every state of a run an open panel is about the document of its last request. -/
theorem run_documented (root : String) (ops : List ControllerOp) (p : Panel) :
    Documented p (lastRequest root ops p) ((run root ops).controller.sessions.find? p)
      (eventsOf p (run root ops).events) := by
  induction ops using List.reverseRecOn with
  | nil =>
    intro s hs
    simp [run, start] at hs
  | append_singleton ops op ih =>
    rw [lastRequest_append]
    by_cases hop : ∃ responses, op = .pump responses
    · -- A pump issues nothing, neither in its handshakes nor in its answers.
      rcases hop with ⟨responses, rfl⟩
      rcases run_provenance root ops with ⟨hb, hp⟩
      have hkeeps : ∀ cause o new o' es, (∀ op, cause ≠ PanelCause.operation op) →
          PanelStep root p cause o new o' → Documented p (lastRequest root ops p) o es →
          Documented p (lastRequest root ops p) o' (es ++ new) :=
        fun _ _ _ _ _ hcause hstep hd => hd.step hstep (hstep.not_issued hcause)
      have hshaken := (panelStep_handshakes hp p).preserves _ _ hkeeps (by simp) ih
      rw [run_append_pump]
      exact foldl_answer_panel_induction _ _ hkeeps responses (by simp) hb.handshakes hp.handshakes
        hshaken
    · have hstep : run root (ops ++ [op]) = (run root ops).step op := by simp [run]
      rw [hstep]
      exact documented_step op (fun responses heq => hop ⟨responses, heq⟩) ih

/-! ## Quiet panels -/

/-- What every session of a run and the events of its panel have to do with each other. -/
theorem run_settled (root : String) (ops : List ControllerOp) {p : Panel} {s : PreviewSession}
    (hs : (run root ops).controller.sessions.find? p = some s) :
    s.Settled root p (eventsOf p (run root ops).events) := by
  have hrun := foldl_panel_induction (fun _ => True)
    (fun o es => ∀ s, o = some s → s.Settled root p es)
    (fun _ _ _ _ _ _ hstep hP => hstep.settled hP) ops trivial (fun _ => trivial)
    (fun _ _ => trivial) (bookkept_start root) (provenance_start root) (by simp [start])
  exact hrun s hs

/-- An open panel none of whose requests is in flight shows what became of the last one: its answer
`r` has been accepted, and since then nothing has happened at the panel except that `texts` have been
posted.  If the panel shows a model, then it is the one of `r`, posted once and last; if it waits, then
this model is held and not posted; and if `r` is an error, then nothing is held and the panel says
why. -/
theorem quiet_panel_shows_document (root : String) (ops : List ControllerOp) (p : Panel)
    (s : PreviewSession) (hs : (run root ops).controller.sessions.find? p = some s)
    (hquiet : ∀ id, (run root ops).controller.inFlight.find? id ≠ some p) :
    ∃ q before r texts, lastRequest root ops p = some q ∧ s.document = some q.uri ∧
      eventsOf p (run root ops).events = before ++ answered p r :: texts.map (posted p) ∧
      latestIssued p before = some q.id ∧ r.id = q.id ∧ s.status ≠ .loading ∧
      (s.status = .showing → ∃ model, r.result = .ok model ∧ texts = [modelText root model] ∧
        (postedTo p (run root ops).events).getLast? = some (modelText root model)) ∧
      (s.status = .waiting → ∃ model, r.result = .ok model ∧
        s.pendingModel = some (model.resolve root).value.model ∧ texts = []) ∧
      (∀ e, r.result = .error e →
        s.pendingModel = none ∧ ∃ reason, s.status = .unavailable reason) := by
  have hnone : s.latestRequest = none := by
    rw [Option.eq_none_iff_forall_ne_some]
    intro id hid
    have hwaits : (run root ops).controller.waitsFor p = some id :=
      Controller.waitsFor_eq_some_iff.2 ⟨s, hs, hid⟩
    exact hquiet id (((run_bookkept root ops).inStep id p).2 hwaits)
  rcases run_documented root ops p s hs with ⟨q, hq, hdocument, hlatest⟩
  rcases (run_settled root ops hs).outcome hnone with ⟨before, r, texts, hevents, hissued, houtcome⟩
  have hid : r.id = q.id := by
    rw [hevents, latestIssued_append_of_forall (by simp), hissued] at hlatest
    exact Option.some.inj hlatest
  have hposted : postedTo p (run root ops).events = postedTo p before ++ texts := by
    rw [← postedTo_eventsOf, hevents, postedTo_append, ← List.singleton_append, postedTo_append,
      postedTo_map_posted]
    rfl
  refine ⟨q, before, r, texts, hq, hdocument, hevents, hid ▸ hissued, hid, ?_⟩
  cases houtcome with
  | shown model hok hstatus hpending =>
    simp [hok, hstatus, hposted]
  | held model hok hstatus hpending =>
    simp [hok, hstatus, hpending]
  | unavailable reason _ hstatus hpending =>
    simp [hstatus, hpending]

/-- A document is replaced by another one before its model is there; the model of the first one comes
too late, and the one of the second one is shown. -/
def replacingOps : List ControllerOp :=
  [.openPreview 1 .fresh "a.json",
    .surface 1 (.post SurfaceMessage.current.encode),
    .documentChanged 1 "b.json",
    .pump [⟨2, .ok { elements := [] }⟩, ⟨1, .error (.failed "timed out")⟩]]

theorem inFlight_replacingOps : (run "/pack" replacingOps).controller.inFlight.entries = [] := by
  decide +kernel

theorem status_replacingOps :
    (run "/pack" replacingOps).controller.status? 1 = some .showing := by
  decide +kernel

/-- The panel shows the model of the document it was asked for last. -/
theorem replacingOps_show_document :
    ∃ (s : PreviewSession) (q : Request) (before : List PreviewEvent) (r : Response)
        (texts : List String),
      (run "/pack" replacingOps).controller.sessions.find? 1 = some s ∧
      lastRequest "/pack" replacingOps 1 = some q ∧ s.document = some q.uri ∧
      eventsOf 1 (run "/pack" replacingOps).events =
        before ++ answered 1 r :: texts.map (posted 1) ∧
      latestIssued 1 before = some q.id ∧ r.id = q.id ∧
      ∃ model, r.result = .ok model ∧ texts = [modelText "/pack" model] ∧
        (postedTo 1 (run "/pack" replacingOps).events).getLast? =
          some (modelText "/pack" model) := by
  obtain ⟨s, hs, hshowing⟩ := Option.map_eq_some_iff.1 status_replacingOps
  have hquiet : ∀ id, (run "/pack" replacingOps).controller.inFlight.find? id ≠ some 1 := by
    intro id hid
    have hmem := SortedMap.mem_keys_iff.2 ⟨_, hid⟩
    simp [SortedMap.keys, inFlight_replacingOps] at hmem
  obtain ⟨q, before, r, texts, hq, hdocument, hevents, hlatest, hid, -, hshown, -⟩ :=
    quiet_panel_shows_document "/pack" replacingOps 1 s hs hquiet
  exact ⟨s, q, before, r, texts, hs, hq, hdocument, hevents, hlatest, hid, hshown hshowing⟩

end History
end ModelPreview
