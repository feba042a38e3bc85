import Mathlib
import ModelPreview.Viewer.App
import ModelPreview.Proofs.Bridge.Handshake
import ModelPreview.Proofs.Preview.QuietPanel

/-!
# The panel of the viewer

The controller of the viewer has one panel.  Its surface takes every text at once, and its requests are
answered from files at once, so that a pump finds the answer to the last request waiting, behind
answers that have come too late.  After the pump the panel shows what became of that answer.

Main definitions:

- `settledStatus`: what a panel shows once its last request is answered.
- `PreviewSession.Linked` and `PreviewSession.Waits`: the session between two operations.
- `Controller.Serves`: a controller with this session and no other one.

Main results:

- `Controller.Serves.pump`: what a pump leads to.
-/

namespace ModelPreview

open PreviewEvent

/-! ## One panel -/

namespace Registry

variable {σ : Type}

/-- The session of the panel of the viewer, and no other one. -/
def single (s : σ) : Registry σ := ⟨[(App.panel, s)], List.pairwise_singleton _ _⟩

@[simp]
theorem insert_empty (s : σ) : SortedMap.insert ∅ App.panel s = single s := rfl

theorem find?_single (s : σ) (p : Panel) :
    (single s).find? p = if p = App.panel then some s else none := by
  rw [← insert_empty, SortedMap.find?_insert, SortedMap.find?_empty]

@[simp]
theorem find?_single_panel (s : σ) : (single s).find? App.panel = some s := by
  simp [find?_single]

@[simp]
theorem keys_single (s : σ) : (single s).keys = [App.panel] := rfl

@[simp]
theorem insert_single (s s' : σ) : (single s).insert App.panel s' = single s' := by
  apply SortedMap.ext_find?
  intro p
  rw [SortedMap.find?_insert, find?_single, find?_single]
  split <;> rfl

@[simp]
theorem update_single (s : σ) (f : σ → σ) : (single s).update App.panel f = single (f s) := by
  simp [update]

end Registry

/-- What a panel shows once its last request is answered: why the surface cannot draw, if it cannot,
and otherwise the model or why there is none. -/
def settledStatus (surfaceError : Option String) (result : Except BackendError Model) :
    PreviewStatus :=
  match surfaceError, result with
  | some reason, _ => .unavailable reason
  | none, .ok _ => .showing
  | none, .error e => .unavailable e.message

namespace PreviewSession

/-! ## The session between two operations -/

/-- Nothing waits for the controller, and a surface that can draw is ready. -/
def Heard (s : PreviewSession) : Prop :=
  s.link.host.unread = [] ∧ (s.surfaceError = none → s.bridge.ready = true)

/-- The surface has taken everything, no model waits, and the announcement of the surface has been
heard or waits to be heard. -/
structure Linked (s : PreviewSession) : Prop where
  surface : s.link.surface = {}
  backlog : s.bridge.backlog = []
  pending : s.pendingModel = none
  failed : ∀ reason, s.surfaceError = some reason → s.status = .unavailable reason
  heard : s.Heard ∨ s.link.host.unread = [SurfaceMessage.current.encode]

variable {s s' : PreviewSession}

/-- Taking note of the announcement makes the surface ready and changes nothing else. -/
theorem Linked.noted (h : s.Linked) :
    s.noted.Heard ∧ s.noted = { s with bridge := s.noted.bridge, link := s.noted.link } := by
  rcases h.heard with hheard | hunread
  · have hsame : s.noted = s := by
      simp [PreviewSession.noted, HostBridge.pump, HostBridge.handleAll, hheard.1]
    rw [hsame]
    exact ⟨hheard, rfl⟩
  · have hdecode : SurfaceMessage.decode SurfaceMessage.current.encode =
        .ok (.ready protocolVersion) := SurfaceBridge.announces_current
    cases hready : s.bridge.ready with
    | true =>
      have hnoted : s.noted = { s with link := s.link.queued [] } := by
        simp [PreviewSession.noted, HostBridge.pump, HostBridge.handleAll, hunread,
          HostBridge.handlePayload, hdecode, HostBridge.handleReady, hready, Except.map, Link.queued]
      rw [hnoted]
      exact ⟨⟨rfl, fun _ => hready⟩, rfl⟩
    | false =>
      have hnoted : s.noted =
          { s with bridge := { ready := true }, link := s.link.queued [] } := by
        simp [PreviewSession.noted, HostBridge.pump, HostBridge.handleAll, hunread,
          HostBridge.handlePayload, hdecode, HostBridge.handleReady, hready, Except.map, Link.queued,
          HostBridge.flush, HostBridge.postAll, h.backlog]
      rw [hnoted]
      exact ⟨⟨rfl, fun _ => rfl⟩, rfl⟩

/-- What the session was before is true of it after it has heard the announcement. -/
theorem Linked.linked_noted (h : s.Linked) : s.noted.Linked := by
  obtain ⟨hheard, hnoted⟩ := h.noted
  obtain ⟨hbacklog, hsurface⟩ := noted_of_drained (.inl h.backlog)
  refine ⟨hsurface.trans h.surface, hbacklog.trans h.backlog, ?_, ?_, .inl hheard⟩
  · rw [hnoted]
    exact h.pending
  · rw [hnoted]
    exact h.failed

/-! ## Answers -/

/-- After a pump the texts just posted wait at the surface, and the panel shows what became of its last
request: the model that was loaded for it, or why there is none. -/
structure Settles (root : String) (s : PreviewSession) (result : Except BackendError Model)
    (s' : PreviewSession) (texts : List String) : Prop where
  surface : s'.link.surface = { unread := texts }
  backlog : s'.bridge.backlog = []
  pending : s'.pendingModel = none
  heard : s'.Heard
  latest : s'.latestRequest = none
  document : s'.document = s.document
  surfaceError : s'.surfaceError = s.surfaceError
  status : s'.status = settledStatus s.surfaceError result
  texts : texts = [] ∨ ∃ model, result = .ok model ∧ texts = [modelText root model]

variable {root : String} {result : Except BackendError Model} {texts : List String}

/-- What settles only depends on the document and on whether the surface has failed. -/
theorem Settles.congr {t : PreviewSession} (h : Settles root t result s' texts)
    (hdocument : t.document = s.document) (herror : t.surfaceError = s.surfaceError) :
    Settles root s result s' texts where
  surface := h.surface
  backlog := h.backlog
  pending := h.pending
  heard := h.heard
  latest := h.latest
  document := h.document.trans hdocument
  surfaceError := h.surfaceError.trans herror
  status := herror ▸ h.status
  texts := h.texts

theorem Linked.settles_self (h : s.Linked) (hheard : s.Heard) (hlatest : s.latestRequest = none)
    (hstatus : s.status = settledStatus s.surfaceError result) (root : String) :
    Settles root s result s [] :=
  ⟨h.surface, h.backlog, h.pending, hheard, hlatest, rfl, rfl, hstatus, .inl rfl⟩

/-- Using the answer to the last request settles the session; its model is sent at once. -/
theorem Linked.settles_applyResponse (h : s.Linked) (hheard : s.Heard) (root : String)
    (r : Response) :
    ∃ texts, Settles root s r.result (Controller.applyResponse root App.panel s r).value.1 texts ∧
      (if (Controller.applyResponse root App.panel s r).value.2 then 1 else 0) = texts.length := by
  rcases Controller.applyResponse_cases root App.panel s r with
    ⟨model, hok, herr, hvalue⟩ | ⟨model, hok, herr, hvalue⟩ | ⟨e, herror, hvalue⟩
  · have hsent : ((s.holding (model.resolve root).value.model).flush App.panel).value =
        ({ s with
            latestRequest := none
            bridge := { s.bridge with backlog := [] }
            link := s.link.deliver [modelText root model]
            pendingModel := none
            status := .showing }, true) := by
      simp [flush_value, sendable?, holding, PreviewSession.setStatus, herr, hheard.2 herr,
        afterSending, h.surface, h.backlog, modelText]
    rw [hvalue, hsent]
    refine ⟨[modelText root model], ⟨?_, rfl, rfl, hheard, rfl, rfl, rfl, ?_, ?_⟩, rfl⟩
    · simp [Link.deliver, h.surface]
    · rw [herr, hok]
      rfl
    · exact .inr ⟨model, hok, rfl⟩
  · obtain ⟨reason, hreason⟩ := Option.isSome_iff_exists.1 herr
    rw [hvalue]
    refine ⟨[], ⟨h.surface, h.backlog, h.pending, hheard, rfl, rfl, rfl, ?_, .inl rfl⟩, rfl⟩
    rw [hreason]
    exact h.failed reason hreason
  · cases herr : s.surfaceError with
    | none =>
      have hset : PreviewSession.setStatus { s with latestRequest := none, pendingModel := none }
          (.unavailable e.message) = { s with
            latestRequest := none, pendingModel := none, status := .unavailable e.message } := by
        simp [PreviewSession.setStatus, herr]
      rw [hvalue, hset]
      refine ⟨[], ⟨h.surface, h.backlog, rfl, hheard, rfl, rfl, rfl, ?_, .inl rfl⟩, rfl⟩
      rw [herr, herror]
      rfl
    | some reason =>
      have hset : PreviewSession.setStatus { s with latestRequest := none, pendingModel := none }
          (.unavailable e.message) = { s with latestRequest := none, pendingModel := none } := by
        simp [PreviewSession.setStatus, herr]
      rw [hvalue, hset]
      refine ⟨[], ⟨h.surface, h.backlog, rfl, hheard, rfl, rfl, rfl, ?_, .inl rfl⟩, rfl⟩
      rw [herr]
      exact h.failed reason herr

/-- A session waits for the last of some answers, or it has used the answer to its last request. -/
inductive Waits (s : PreviewSession) (result : Except BackendError Model) : List Response → Prop where
  | answered (hlatest : s.latestRequest = none)
      (hstatus : s.status = settledStatus s.surfaceError result) : Waits s result []
  | asked {id : Nat} {late : List Response} (hlatest : s.latestRequest = some id)
      (hlate : ∀ r ∈ late, r.id ≠ id) : Waits s result (late ++ [⟨id, result⟩])

end PreviewSession

/-! ## The controller -/

namespace Controller

/-- A controller with one session, whose request is the only one in flight. -/
structure Serves (c : Controller) (s : PreviewSession) : Prop where
  sessions : c.sessions = .single s
  inFlight : ∀ id, c.inFlight.find? id = if s.latestRequest = some id then some App.panel else none

variable {c : Controller} {s s' : PreviewSession}

/-- Answers nobody waits for are passed over. -/
theorem handleResponses_of_late {late : List Response}
    (hlate : ∀ r ∈ late, c.inFlight.find? r.id = none) (rs : List Response) :
    (c.handleResponses (late ++ rs)).value = (c.handleResponses rs).value := by
  induction late with
  | nil => rfl
  | cons r late ih =>
    have hfirst := handleResponse_of_not_inFlight (hlate r List.mem_cons_self)
    have hrest := ih fun r' hr' => hlate r' (List.mem_cons_of_mem r hr')
    simp [handleResponses, hfirst, hrest]

/-- The texts that the only session has posted. -/
theorem postedUntil_of_single (c c' : Controller) (hs : c.sessions = .single s)
    (hs' : c'.sessions = .single s') (hunread : s.link.surface.unread = []) :
    c.postedUntil c' = s'.link.surface.unread.map (posted App.panel) := by
  simp [postedUntil, inbox, hs, hs', hunread]

theorem Serves.handshakes (h : c.Serves s) (hs : s.Linked) :
    c.handshakes.value = ({ c with sessions := .single s.noted }, 0) := by
  have hpending : s.noted.pendingModel = none := hs.linked_noted.pending
  have hshake : (s.handshake App.panel).value = (s.noted, false) := by
    rw [PreviewSession.handshake_value, PreviewSession.flush_value]
    simp [PreviewSession.sendable?, hpending]
  simp [Controller.handshakes, h.sessions, Registry.single, SortedMap.mapValues, hshake]

/-- What a pump of the only session leads to, with the texts that it posts. -/
structure Pumped (c : Controller) (s : PreviewSession) (result : Except BackendError Model)
    (r : Controller × Nat) (s' : PreviewSession) (texts : List String) : Prop where
  settles : PreviewSession.Settles c.root s result s' texts
  serves : r.1.Serves s'
  root : r.1.root = c.root
  nextRequest : r.1.nextRequest = c.nextRequest
  posted : c.postedUntil r.1 = texts.map (posted App.panel)
  count : r.2 = texts.length

/-- A pump leaves the only session with what became of its last request. -/
theorem Serves.pump (h : c.Serves s) (hs : s.Linked) {result : Except BackendError Model}
    {completed : List Response} (hwaits : s.Waits result completed) :
    ∃ s' texts, c.Pumped s result (c.pump completed).value s' texts := by
  obtain ⟨hheard, hnoted⟩ := hs.noted
  have hdocument : s.noted.document = s.document := s.document_noted
  have herror : s.noted.surfaceError = s.surfaceError := by rw [hnoted]
  have hunread : s.link.surface.unread = [] := by rw [hs.surface]
  let shaken : Controller := { c with sessions := .single s.noted }
  have hpump : (c.pump completed).value = (shaken.handleResponses completed).value := by
    simp [Controller.pump, h.handshakes hs, shaken]
  rw [hpump]
  cases hwaits with
  | answered hlatest hstatus =>
    have hstatus' : s.noted.status = settledStatus s.noted.surfaceError result := by
      rw [hnoted]
      exact hstatus
    have hsettles := hs.linked_noted.settles_self hheard
      ((PreviewSession.latestRequest_noted s).trans hlatest) hstatus' c.root
    refine ⟨s.noted, [], hsettles.congr hdocument herror, ⟨rfl, ?_⟩, rfl, rfl, ?_, rfl⟩
    · intro id
      rw [PreviewSession.latestRequest_noted]
      exact h.inFlight id
    · have hposted := postedUntil_of_single c shaken h.sessions rfl hunread
      rw [hsettles.surface] at hposted
      exact hposted
  | @asked id late hlatest hlate =>
    have hfind : ∀ id', shaken.inFlight.find? id' = if id' = id then some App.panel else none := by
      intro id'
      have hold := h.inFlight id'
      rw [hlatest] at hold
      simpa [eq_comm] using hold
    rw [handleResponses_of_late (fun r hr => by rw [hfind, if_neg (hlate r hr)])]
    obtain ⟨texts, hsettles, hcount⟩ :=
      hs.linked_noted.settles_applyResponse hheard c.root ⟨id, result⟩
    have hanswer : (shaken.handleResponses [⟨id, result⟩]).value =
        ({ shaken with
            inFlight := c.inFlight.erase id
            sessions := .single (applyResponse c.root App.panel s.noted ⟨id, result⟩).value.1 },
          if (applyResponse c.root App.panel s.noted ⟨id, result⟩).value.2 then 1 else 0) := by
      simp [handleResponses, handleResponse, hfind, hlatest, shaken]
    rw [hanswer]
    refine ⟨_, texts, hsettles.congr hdocument herror, ⟨rfl, ?_⟩, rfl, rfl, ?_, hcount⟩
    · intro id'
      rw [hsettles.latest, SortedMap.find?_erase]
      have hold := hfind id'
      by_cases hid : id' = id
      · simp [hid]
      · simpa [hid, shaken] using hold
    · have hposted := postedUntil_of_single c (shaken.handleResponses [⟨id, result⟩]).value.1
        h.sessions (by rw [hanswer]) hunread
      rw [hanswer, hsettles.surface] at hposted
      exact hposted

end Controller
end ModelPreview
