import Mathlib
import ModelPreview.Proofs.Preview.PanelView
import ModelPreview.Proofs.Viewer.Panel

/-!
# The life of a preview

The viewer opens one preview, works with it for a while and closes it.  What is true before, in
between and behind is described here for a viewer that draws with any backend, and every operation of
the viewer is shown to lead from one of these states to the right one.

Main definitions:

- `App.Unopened`, `App.Previews` and `App.Ended`: the three times of a life.
- `App.Keeps`, `App.SameView` and `App.Steps`: what an operation leaves as it was.

Main results:

- `App.Unopened.openPreview`: a preview can always be opened.
- `App.Previews.cycleDocument` and `App.Previews.pump`: working with an open preview.
- `App.Ended.pump`: there is nothing to send without a preview.
- `App.Previews.close`: closing ends the preview.
-/

namespace ModelPreview

open PreviewEvent

/-! ## The only session -/

namespace PreviewSession

variable {s : PreviewSession}

theorem Linked.expect (h : s.Linked) (id : Nat) (uri : String) : (s.expect id uri).Linked := by
  unfold PreviewSession.expect PreviewSession.setStatus
  split
  · rename_i hnone
    have herr : s.surfaceError = none := by simpa using hnone
    refine ⟨h.surface, h.backlog, h.pending, fun reason hsome => ?_, h.heard⟩
    exact nomatch herr.symm.trans hsome
  · exact ⟨h.surface, h.backlog, h.pending, h.failed, h.heard⟩

/-- The session after the surface has taken everything that waits there. -/
def taken (s : PreviewSession) : PreviewSession :=
  { s with link := s.link.setInbox .surface { s.link.surface with unread := [] } }

/-- A session that has settled is linked again once the surface has taken what was posted. -/
theorem Settles.linked_taken {root : String} {result : Except BackendError Model}
    {s' : PreviewSession} {texts : List String} (h : Settles root s result s' texts) :
    s'.taken.Linked where
  surface := by simp [taken, Link.setInbox, h.surface]
  backlog := h.backlog
  pending := h.pending
  failed reason hreason := by
    have hold : s.surfaceError = some reason := h.surfaceError.symm.trans hreason
    have hstatus := h.status
    rw [hold] at hstatus
    exact hstatus
  heard := .inl h.heard

@[simp]
theorem document_expect (s : PreviewSession) (id : Nat) (uri : String) :
    (s.expect id uri).document = some uri := by
  unfold PreviewSession.expect
  simp

end PreviewSession

namespace Controller

variable {c : Controller} {s : PreviewSession}

/-- A new request is the only one in flight. -/
theorem Serves.request (h : c.Serves s) (uri : String) :
    (c.request App.panel uri).1.Serves (s.expect c.nextRequest uri) := by
  refine ⟨by simp [Controller.request, h.sessions], ?_⟩
  intro id
  have hwaits : c.waitsFor App.panel = s.latestRequest := by simp [waitsFor, h.sessions]
  rw [find?_inFlight_request, hwaits, h.inFlight, latestRequest_expect]
  by_cases hid : id = c.nextRequest
  · simp [hid]
  · have hne : ¬c.nextRequest = id := fun heq => hid heq.symm
    by_cases hlatest : s.latestRequest = some id
    · simp [hid, hne, hlatest]
    · simp [hid, hne, hlatest]

/-- Without sessions answers are only forgotten. -/
theorem handleResponses_of_no_session (h : c.sessions = ∅) (rs : List Response) :
    ∃ inFlight, (c.handleResponses rs).value = ({ c with inFlight := inFlight }, 0) ∧
      (rs = [] → inFlight = c.inFlight) := by
  induction rs generalizing c with
  | nil => exact ⟨c.inFlight, rfl, fun _ => rfl⟩
  | cons r rs ih =>
    have hfirst : ∃ inFlight, (c.handleResponse r).value = ({ c with inFlight := inFlight }, 0) := by
      cases hfind : c.inFlight.find? r.id with
      | none => exact ⟨c.inFlight, handleResponse_of_not_inFlight hfind⟩
      | some p => exact ⟨c.inFlight.erase r.id, by simp [handleResponse, hfind, h]⟩
    obtain ⟨inFlight, hfirst⟩ := hfirst
    obtain ⟨inFlight', hrest, -⟩ := ih (c := { c with inFlight := inFlight }) h
    exact ⟨inFlight', by simp [handleResponses, hfirst, hrest], fun h => absurd h (List.cons_ne_nil r rs)⟩

theorem pump_of_no_session (h : c.sessions = ∅) (rs : List Response) :
    ∃ inFlight, (c.pump rs).value = ({ c with inFlight := inFlight }, 0) ∧
      (rs = [] → inFlight = c.inFlight) := by
  have hshaken : c.handshakes.value = (c, 0) := by
    obtain ⟨root, sessions, inFlight, nextRequest⟩ := c
    obtain rfl : sessions = ∅ := h
    rfl
  obtain ⟨inFlight, hvalue, hnil⟩ := handleResponses_of_no_session h rs
  exact ⟨inFlight, by simp [Controller.pump, hshaken, hvalue], hnil⟩

/-- Nothing is posted to panels that are not open. -/
theorem postedUntil_of_no_session {c' : Controller} (h : c'.sessions = ∅) :
    c.postedUntil c' = [] := by
  have hkeys : c'.sessions.keys = [] := by
    rw [h]
    rfl
  simp [postedUntil, hkeys]

end Controller

namespace App

variable {β : Type}

/-! ## The three times of a life -/

/-- There is no preview. -/
structure Ended (a : App β) : Prop where
  sessions : a.controller.sessions = ∅
  surface : a.surface = none
  session : a.session = none

/-- There is no preview yet. -/
structure Unopened (a : App β) : Prop where
  ended : a.Ended
  inFlight : a.controller.inFlight = ∅
  completed : a.backend.completed = []

/-- There is a preview of the current document, for which `result` has been loaded. -/
structure Previews (a : App β) (s : PreviewSession) (result : Except BackendError Model) : Prop where
  serves : a.controller.Serves s
  linked : s.Linked
  waits : s.Waits result a.backend.completed
  used : ∀ r ∈ a.backend.completed, r.id < a.controller.nextRequest
  document : ∃ d, a.document? = some d ∧ s.document = some d
  surface : ∃ bridge, a.surface = some ⟨bridge, none⟩ ∧ bridge.attached = true
  session : a.session.isSome = true

/-- Between two states of the viewer the documents stay the same, and no request is issued. -/
structure Keeps (a a' : App β) : Prop where
  documents : a'.documents = a.documents
  current : a'.current = a.current
  root : a'.controller.root = a.controller.root
  nextRequest : a'.controller.nextRequest = a.controller.nextRequest

/-- Between two states of the viewer only the files and the render session have changed. -/
structure SameView (a a' : App β) : Prop where
  documents : a'.documents = a.documents
  current : a'.current = a.current
  controller : a'.controller = a.controller
  backend : a'.backend = a.backend
  surface : a'.surface = a.surface
  session : a'.session.isSome = a.session.isSome

variable {a a' : App β} {s : PreviewSession} {result : Except BackendError Model}

theorem Keeps.trans {a'' : App β} (h : a.Keeps a') (h' : a'.Keeps a'') : a.Keeps a'' :=
  ⟨h'.documents.trans h.documents, h'.current.trans h.current, h'.root.trans h.root,
    h'.nextRequest.trans h.nextRequest⟩

theorem Keeps.document?_eq (h : a.Keeps a') : a'.document? = a.document? := by
  rw [document?, document?, h.documents, h.current]

namespace SameView

theorem refl (a : App β) : a.SameView a := ⟨rfl, rfl, rfl, rfl, rfl, rfl⟩

theorem trans {a'' : App β} (h : a.SameView a') (h' : a'.SameView a'') : a.SameView a'' :=
  ⟨h'.documents.trans h.documents, h'.current.trans h.current, h'.controller.trans h.controller,
    h'.backend.trans h.backend, h'.surface.trans h.surface, h'.session.trans h.session⟩

theorem keeps (h : a.SameView a') : a.Keeps a' :=
  ⟨h.documents, h.current, by rw [h.controller], by rw [h.controller]⟩

theorem ended (h : a.SameView a') (ha : a.Ended) : a'.Ended := by
  refine ⟨by rw [h.controller, ha.sessions], by rw [h.surface, ha.surface], ?_⟩
  have hsession := h.session
  rw [ha.session] at hsession
  simpa using hsession

theorem unopened (h : a.SameView a') (ha : a.Unopened) : a'.Unopened :=
  ⟨h.ended ha.ended, by rw [h.controller, ha.inFlight], by rw [h.backend, ha.completed]⟩

theorem previews (h : a.SameView a') (ha : a.Previews s result) : a'.Previews s result := by
  have hdocument := h.keeps.document?_eq
  refine ⟨by rw [h.controller]; exact ha.serves, ha.linked, by rw [h.backend]; exact ha.waits, ?_,
    by rw [hdocument]; exact ha.document, by rw [h.surface]; exact ha.surface,
    h.session.trans ha.session⟩
  rw [h.backend, h.controller]
  exact ha.used

end SameView

theorem Previews.status?_eq (h : a.Previews s result) : a.status? = some s.status := by
  simp [status?, Controller.status?, h.serves.sessions]

theorem Previews.document?_eq (h : a.Previews s result) :
    a.controller.document? panel = a.document? := by
  obtain ⟨d, hd, hdocument⟩ := h.document
  rw [hd, ← hdocument]
  simp [Controller.document?, h.serves.sessions]

theorem Ended.status?_eq (h : a.Ended) : a.status? = none := by
  simp [status?, Controller.status?, h.sessions]

/-! ## Requests -/

theorem submit_value (a : App β) (r : Request) :
    (a.submit r).value =
      { a with backend := ⟨a.backend.completed ++ [⟨r.id, loadModel a.files r.uri⟩]⟩ } := by
  simp [submit, FileBackend.request]

/-- A request whose answer has just come in makes all earlier answers late. -/
theorem waits_submit {completed : List Response} {id : Nat} (hlatest : s.latestRequest = some id)
    (hused : ∀ r ∈ completed, r.id < id) (result : Except BackendError Model) :
    s.Waits result (completed ++ [⟨id, result⟩]) :=
  .asked hlatest fun r hr => Nat.ne_of_lt (hused r hr)

/-! ## Steps through the documents -/

/-- The position after one step. -/
def nextDocument (a : App β) : Nat := (a.current + 1) % a.documents.length

/-- Between two states of the viewer a step through the documents has been made, if there are several. -/
structure Steps (a a' : App β) : Prop where
  documents : a'.documents = a.documents
  current : a'.current = if a.documents.length < 2 then a.current else a.nextDocument
  root : a'.controller.root = a.controller.root

theorem exists_nextDocument (h : ¬a.documents.length < 2) :
    ∃ d, a.documents[a.nextDocument]? = some d := by
  have hlt : a.nextDocument < a.documents.length := Nat.mod_lt _ (by omega)
  exact ⟨_, List.getElem?_eq_getElem hlt⟩

theorem cycleDocument_of_lt (h : a.documents.length < 2) : a.cycleDocument.value = a := by
  simp [cycleDocument, h]

/-- With a session on the panel the next document is asked for and loaded at once. -/
theorem cycleDocument_of_session (hn : ¬a.documents.length < 2) {d : String}
    (hd : a.documents[a.nextDocument]? = some d)
    (hsession : (a.controller.sessions.find? panel).isSome = true) :
    a.cycleDocument.value = { a with
      current := a.nextDocument
      controller := (a.controller.request panel d).1
      backend := ⟨a.backend.completed ++ [⟨a.controller.nextRequest, loadModel a.files d⟩]⟩ } := by
  have hdocument : { a with current := a.nextDocument }.document? = some d := hd
  have hchanged : (a.controller.documentChanged panel d).value =
      ((a.controller.request panel d).1, some ⟨a.controller.nextRequest, d⟩) := by
    rw [Controller.documentChanged_value, if_pos hsession]
    rfl
  unfold nextDocument at hdocument
  simp [cycleDocument, hn, hdocument, hchanged, submit_value, nextDocument]

theorem cycleDocument_of_no_session (hn : ¬a.documents.length < 2)
    (hsession : a.controller.sessions.find? panel = none) :
    a.cycleDocument.value = { a with current := a.nextDocument } := by
  obtain ⟨d, hd⟩ := exists_nextDocument hn
  have hdocument : { a with current := a.nextDocument }.document? = some d := hd
  have hchanged : (a.controller.documentChanged panel d).value = (a.controller, none) := by
    rw [Controller.documentChanged_value, hsession]
    rfl
  unfold nextDocument at hdocument
  simp [cycleDocument, hn, hdocument, hchanged, nextDocument]

theorem steps_cycleDocument (a : App β) : a.Steps a.cycleDocument.value := by
  by_cases hn : a.documents.length < 2
  · rw [cycleDocument_of_lt hn]
    exact ⟨rfl, (if_pos hn).symm, rfl⟩
  cases hsession : a.controller.sessions.find? panel with
  | none =>
    rw [cycleDocument_of_no_session hn hsession]
    exact ⟨rfl, (if_neg hn).symm, rfl⟩
  | some s =>
    obtain ⟨d, hd⟩ := exists_nextDocument hn
    rw [cycleDocument_of_session hn hd (by rw [hsession]; rfl)]
    exact ⟨rfl, (if_neg hn).symm, rfl⟩

/-- With an open preview the panel waits for the next document. -/
theorem Previews.cycleDocument (h : a.Previews s result) (hn : ¬a.documents.length < 2) :
    ∃ s' d, a.cycleDocument.value.document? = some d ∧
      a.cycleDocument.value.Previews s' (loadModel a.files d) ∧
      a.cycleDocument.value.controller.nextRequest = a.controller.nextRequest + 1 := by
  obtain ⟨d, hd⟩ := exists_nextDocument hn
  rw [cycleDocument_of_session hn hd (by simp [h.serves.sessions])]
  refine ⟨s.expect a.controller.nextRequest d, d, hd, ⟨h.serves.request d, h.linked.expect _ _,
    waits_submit (by simp) h.used _, fun r hr => ?_, ⟨d, hd, by simp⟩, h.surface, h.session⟩, rfl⟩
  rcases List.mem_append.1 hr with hr | hr
  · exact Nat.lt_succ_of_lt (h.used r hr)
  · obtain rfl := List.mem_singleton.1 hr
    exact Nat.lt_succ_self _

/-- Without a preview only the position changes. -/
theorem Ended.cycleDocument_eq (h : a.Ended) :
    ∃ current, a.cycleDocument.value = { a with current := current } := by
  by_cases hn : a.documents.length < 2
  · exact ⟨a.current, cycleDocument_of_lt hn⟩
  · have hsession : a.controller.sessions.find? panel = none := by
      rw [h.sessions, SortedMap.find?_empty]
    exact ⟨a.nextDocument, cycleDocument_of_no_session hn hsession⟩

theorem Ended.cycleDocument (h : a.Ended) : a.cycleDocument.value.Ended := by
  obtain ⟨current, hvalue⟩ := h.cycleDocument_eq
  rw [hvalue]
  exact ⟨h.sessions, h.surface, h.session⟩

theorem Unopened.cycleDocument (h : a.Unopened) : a.cycleDocument.value.Unopened := by
  refine ⟨h.ended.cycleDocument, ?_, ?_⟩ <;> obtain ⟨current, hvalue⟩ := h.ended.cycleDocument_eq
  · rw [hvalue, h.inFlight]
  · rw [hvalue, h.completed]

/-! ## Pumps -/

section Pump

variable (handle : RenderSession β FileTextures → RenderMessage →
  Logged (RenderSession β FileTextures))

/-- The viewer after its controller has worked. -/
def pumped (a : App β) : App β :=
  { a with controller := (a.controller.pump a.backend.completed).value.1, backend := {} }

theorem pump_value : (a.pump handle).value = (a.pumped.pumpSurface handle).value := by
  simp only [pump, pumped, Logged.value_bind]
  split <;> rfl

/-- The surface takes what has been posted. -/
theorem pumpSurface_value {bridge : SurfaceBridge} (hattached : bridge.attached = true)
    (hsessions : a.controller.sessions = .single s) (hsurface : a.surface = some ⟨bridge, none⟩)
    (hsession : a.session.isSome = true) :
    ∃ session, (a.pumpSurface handle).value = { a with
      controller := { a.controller with sessions := .single s.taken }
      session := some session } := by
  obtain ⟨session, hsome⟩ := Option.isSome_iff_exists.1 hsession
  simp [pumpSurface, hsurface, hsome, link, hsessions, SurfaceBridge.pump_value hattached,
    setSurface, PreviewSession.taken]

/-- A pump settles an open preview and leaves nothing to do. -/
theorem Previews.pump (h : a.Previews s result) :
    ∃ s' texts,
      a.controller.Pumped s result (a.controller.pump a.backend.completed).value s' texts ∧
        (a.pump handle).value.Previews s'.taken result ∧ a.Keeps (a.pump handle).value := by
  obtain ⟨s', texts, hpumped⟩ := h.serves.pump h.linked h.waits
  obtain ⟨bridge, hsurface, hattached⟩ := h.surface
  obtain ⟨session, hvalue⟩ := pumpSurface_value (a := a.pumped) handle hattached
    hpumped.serves.sessions hsurface h.session
  rw [pump_value, hvalue]
  refine ⟨s', texts, hpumped, ⟨?_, hpumped.settles.linked_taken, ?_, nofun, ?_, h.surface, rfl⟩,
    ⟨rfl, rfl, hpumped.root, hpumped.nextRequest⟩⟩
  · exact ⟨rfl, hpumped.serves.inFlight⟩
  · refine .answered hpumped.settles.latest ?_
    have hstatus := hpumped.settles.status
    rw [← hpumped.settles.surfaceError] at hstatus
    exact hstatus
  · obtain ⟨d, hd, hdocument⟩ := h.document
    exact ⟨d, hd, hpumped.settles.document.trans hdocument⟩

/-- Without a preview a pump has nothing to send. -/
theorem Ended.pump (h : a.Ended) :
    (a.pump handle).value.Ended ∧ a.Keeps (a.pump handle).value ∧
      (a.controller.pump a.backend.completed).value.2 = 0 := by
  obtain ⟨inFlight, hpump, -⟩ := Controller.pump_of_no_session h.sessions a.backend.completed
  have hvalue : (a.pump handle).value =
      { a with controller := { a.controller with inFlight := inFlight }, backend := {} } := by
    simp [pump_value, pumped, pumpSurface, hpump, h.surface]
  rw [hvalue, hpump]
  exact ⟨⟨h.sessions, h.surface, h.session⟩, ⟨rfl, rfl, rfl, rfl⟩, rfl⟩

theorem Unopened.pump (h : a.Unopened) : (a.pump handle).value.Unopened := by
  obtain ⟨inFlight, hpump, hnil⟩ :=
    Controller.pump_of_no_session h.ended.sessions a.backend.completed
  have hinFlight : inFlight = ∅ := (hnil h.completed).trans h.inFlight
  refine ⟨(h.ended.pump handle).1, ?_, ?_⟩
  · simp [pump_value, pumped, pumpSurface, hpump, h.ended.surface, hinFlight]
  · simp [pump_value, pumped, pumpSurface, h.ended.surface]

end Pump

/-! ## Opening and closing -/

/-- What the only session can be like after the set-up of the render session: the surface has announced
itself, or it has failed. -/
inductive Announced (s : PreviewSession) : PreviewSession → Prop where
  | ready : Announced s { s with link := s.link.queued [SurfaceMessage.current.encode] }
  | failed (reason : String) : Announced s (s.failSurface reason)

theorem announce_value (hs : a.controller.sessions = .single s) (hlink : s.link = .fresh)
    (setup : Except RenderError Unit) :
    ∃ bridge s', Announced s s' ∧ bridge.attached = true ∧
      (a.announce ⟨SurfaceBridge.attach {}, none⟩ setup).value = ({ a with
        controller := { a.controller with sessions := .single s' }
        surface := some ⟨bridge, none⟩ }, .ok ()) := by
  cases setup with
  | ok u =>
    refine ⟨{ readySent := true, attached := true }, _, .ready, rfl, ?_⟩
    simp [announce, App.link, hs, hlink, SurfaceBridge.signalReady_eq, SurfaceBridge.attach, setSurface,
      Link.fresh]
  | error e =>
    refine ⟨SurfaceBridge.attach {}, _, .failed e.message, rfl, ?_⟩
    simp [announce, Controller.surfaceFailed, SortedMap.contains, hs]

/-- The session of a preview that has just been opened. -/
theorem Announced.linked {id : Nat} {d : String}
    (h : Announced (PreviewSession.expect { link := .fresh } id d) s) :
    s.Linked ∧ s.latestRequest = some id ∧ s.document = some d := by
  cases h with
  | ready => exact ⟨⟨rfl, rfl, rfl, nofun, .inr rfl⟩, rfl, rfl⟩
  | failed reason =>
    refine ⟨⟨rfl, rfl, rfl, ?_, .inl ⟨rfl, nofun⟩⟩, rfl, rfl⟩
    rintro _ ⟨⟩
    rfl

variable [RenderBackend β]

/-- Opening a preview always works, whether or not the session can be set up. -/
theorem Unopened.openPreview (h : a.Unopened) (backend : β) (size : Extent) {d : String}
    (hd : a.document? = some d) :
    ∃ s, (a.openPreview backend size d).value.1.Previews s (loadModel a.files d) ∧
      (∃ id, (a.openPreview backend size d).value.2 = .ok id) ∧
      (a.openPreview backend size d).value.1.documents = a.documents ∧
      (a.openPreview backend size d).value.1.current = a.current ∧
      (a.openPreview backend size d).value.1.controller.root = a.controller.root ∧
      (a.openPreview backend size d).value.1.controller.nextRequest =
        a.controller.nextRequest + 1 := by
  let asked : PreviewSession := PreviewSession.expect { link := .fresh } a.controller.nextRequest d
  let opened : Controller :=
    (Controller.request { a.controller with sessions := .single { link := .fresh } } panel d).1
  have hserves : opened.Serves asked := by
    refine Controller.Serves.request ⟨rfl, fun id => ?_⟩ d
    rw [h.inFlight, SortedMap.find?_empty]
    rfl
  have hopen : (a.controller.openPreview panel .fresh d).value =
      ⟨opened, ⟨a.controller.nextRequest, d⟩, true⟩ := by
    simp [Controller.openPreview, Registry.openOrReveal, h.ended.sessions, opened, Controller.request]
  -- The request is answered before the device is asked for anything, so it does not matter what comes
  -- of the set-up.
  obtain ⟨setup, hsetup⟩ : ∃ setup,
      (RenderSession.create backend (⟨a.files⟩ : FileTextures) size).setup.value = setup := ⟨_, rfl⟩
  let answered : App β := { a with
    controller := opened
    backend := ⟨[⟨a.controller.nextRequest, loadModel a.files d⟩]⟩ }
  obtain ⟨bridge, s, hannounced, hattached, hvalue⟩ :=
    announce_value (a := answered) hserves.sessions rfl setup.2
  obtain ⟨hlinked, hlatest, hdocument⟩ := hannounced.linked
  have hresult : (a.openPreview backend size d).value = ({ answered with
      controller := { answered.controller with sessions := .single s }
      surface := some ⟨bridge, none⟩
      session := some setup.1 }, .ok a.controller.nextRequest) := by
    have hsubmit : (App.submit { a with controller := opened } ⟨a.controller.nextRequest, d⟩).value =
        answered := by
      simp [submit_value, h.completed, answered]
    simp [App.openPreview, hopen, hsubmit, hsetup, hvalue, Except.map]
  rw [hresult]
  refine ⟨s, ⟨⟨rfl, ?_⟩, hlinked, ?_, ?_, ⟨d, hd, hdocument⟩, ⟨bridge, rfl, hattached⟩, rfl⟩,
    ⟨_, rfl⟩, rfl, rfl, rfl, rfl⟩
  · intro id
    have hold : asked.latestRequest = some a.controller.nextRequest := rfl
    have hfind := hserves.inFlight id
    rw [hold] at hfind
    rw [hlatest]
    exact hfind
  · have hfirst : ∀ r ∈ ([] : List Response), r.id < a.controller.nextRequest := by simp
    exact waits_submit hlatest hfirst _
  · intro r hr
    obtain rfl := List.mem_singleton.1 hr
    exact Nat.lt_succ_self _

theorem close_value (a : App β) :
    a.close.value.1 = { a with
      controller := (a.controller.closePanel panel).value.1
      surface := none
      session := none } := by
  cases hsession : a.session with
  | none => simp [close, disposeSession, closePreview, hsession]
  | some session => simp [close, disposeSession, closePreview, hsession]

theorem keeps_close (a : App β) : a.Keeps a.close.value.1 := by
  have hroot : (a.controller.closePanel panel).value.1.root = a.controller.root := by
    simp only [Controller.closePanel, Registry.dispose]
    split <;> rfl
  rw [close_value]
  exact ⟨rfl, rfl, hroot, Controller.nextRequest_closePanel a.controller panel⟩

/-- After closing there is no preview. -/
theorem ended_close (hone : ∀ p, p ≠ panel → a.controller.sessions.find? p = none) :
    a.close.value.1.Ended := by
  rw [close_value]
  refine ⟨?_, rfl, rfl⟩
  apply SortedMap.ext_find?
  intro p
  rw [Controller.find?_closePanel]
  split
  · rfl
  · rename_i hp
    exact hone p hp

theorem Previews.close (h : a.Previews s result) : a.close.value.1.Ended := by
  refine ended_close fun p hp => ?_
  rw [h.serves.sessions, Registry.find?_single, if_neg hp]

theorem Ended.close (h : a.Ended) : a.close.value.1.Ended := by
  refine ended_close fun p _ => ?_
  rw [h.sessions, SortedMap.find?_empty]

/-- Closing what has not been opened changes nothing. -/
theorem Unopened.close (h : a.Unopened) : a.close.value.1.Unopened := by
  refine ⟨h.ended.close, ?_, ?_⟩
  · have hinFlight : (a.controller.closePanel panel).value.1.inFlight =
        a.controller.inFlight.filter fun _ owner => owner ≠ panel := by
      simp only [Controller.closePanel, Registry.dispose]
      split <;> rfl
    rw [close_value, hinFlight, h.inFlight]
    rfl
  · rw [close_value]
    exact h.completed

end App
end ModelPreview
