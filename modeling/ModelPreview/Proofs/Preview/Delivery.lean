import Mathlib
import ModelPreview.Proofs.Bridge.Transit
import ModelPreview.Proofs.Preview.Provenance

/-!
# What reaches the surface

A panel that shows a model has posted it, and until the surface takes texts from its inbox the model
is the last text there.  The surface accepts it exactly if all its numbers are finite: the controller
does not look at the numbers, the surface does.

Main definitions:

- `PreviewSession.ShowsSent`: what is known about a session that shows a model.

Main results:

- `History.showsSent_of_keepsTexts`: what panels show has been sent.
- `History.posted_model_accepted_iff`: when a posted model is accepted, and what the surface of a
  panel that shows a model gets.
- `History.posted_model_is_rejected`: a run that posts a model read from a file that is rejected.
-/

namespace ModelPreview

open PreviewEvent

namespace PreviewEvent

/-- The text that an event posts. -/
def postedText? : PreviewEvent → Option String
  | posted _ payload => some payload
  | _ => none

theorem postedText?_eq_some_iff {e : PreviewEvent} {payload : String} :
    e.postedText? = some payload ↔ ∃ p, e = posted p payload := by
  cases e <;> simp [postedText?]

end PreviewEvent

/-! ## Sessions that show a model -/

namespace PreviewSession

/-- A session that shows a model has sent it: nothing is held, the surface has not failed, and the
last text at the surface is a model with a certain property. -/
def ShowsSent (property : Model → Prop) (s : PreviewSession) : Prop :=
  s.status = .showing → s.surfaceError = none ∧ s.pendingModel = none ∧
    ∃ m, property m ∧ s.link.surface.unread.getLast? = some (RenderMessage.renderModel m).encode

variable {property : Model → Prop} {s : PreviewSession}

theorem ShowsSent.mono {property' : Model → Prop} (h : s.ShowsSent property)
    (himp : ∀ m, property m → property' m) : s.ShowsSent property' := by
  intro hshowing
  obtain ⟨herr, hpending, m, hm, hlast⟩ := h hshowing
  exact ⟨herr, hpending, m, himp m hm, hlast⟩

/-- A session for which another status was set does not show anything: if the surface has failed, it
did not do so before. -/
theorem ShowsSent.setStatus (h : s.ShowsSent property) {status : PreviewStatus}
    (hstatus : status ≠ .showing) {s' : PreviewSession} (hs' : s'.surfaceError = s.surfaceError)
    (hkept : s'.status = s.status) (property' : Model → Prop) :
    (s'.setStatus status).ShowsSent property' := by
  unfold PreviewSession.setStatus
  split
  · exact fun hshowing => absurd hshowing hstatus
  · rename_i herr
    intro hshowing
    have hnone := (h (hkept ▸ hshowing)).1
    simp [hs', hnone] at herr

theorem ShowsSent.expect (h : s.ShowsSent property) (id : Nat) (uri : String) :
    (s.expect id uri).ShowsSent property := by
  refine h.setStatus ?_ ?_ ?_ property
  · simp
  · rfl
  · rfl

theorem showsSent_failSurface (property : Model → Prop) (s : PreviewSession) (reason : String) :
    (s.failSurface reason).ShowsSent property := by
  intro hshowing
  simp [failSurface] at hshowing

theorem ShowsSent.noted (h : s.ShowsSent property) (hdrained : s.Drained) :
    s.noted.ShowsSent property := by
  intro hshowing
  have hsurface := (noted_of_drained hdrained).2
  rcases noted_eq s with ⟨reason, hnoted⟩ | hnoted
  · rw [hnoted] at hshowing
    cases hshowing
  · rw [hnoted] at hshowing
    rw [hsurface, hnoted]
    exact h hshowing

/-- Sending a held model shows it. -/
theorem ShowsSent.flush (h : s.ShowsSent property) (hholds : s.Holds property) (p : Panel) :
    (s.flush p).value.1.ShowsSent property := by
  have hunread := unread_flush hholds.drained p
  rw [flush_value] at hunread ⊢
  cases hsend : s.sendable? with
  | none => exact h
  | some m =>
    obtain ⟨hpending, -, herr⟩ := sendable?_eq_some_iff.1 hsend
    simp only [hsend, sentTexts] at hunread
    intro hshowing
    by_cases hopen : s.link.surface.isOpen = true
    · refine ⟨?_, pendingModel_afterSending s m, m, hholds.held m hpending, ?_⟩
      · simpa [afterSending, hopen] using herr
      · simp [hunread, hopen]
    · simp [afterSending, hopen] at hshowing

/-- A surface that takes nothing and stays leaves its inbox as it is. -/
theorem ShowsSent.afterPost (h : s.ShowsSent property) (payload : String) :
    PreviewSession.ShowsSent property { s with link := s.link.afterAct (.post payload) } := by
  have hsurface : (s.link.afterAct (.post payload)).surface = s.link.surface := by
    simp only [Link.afterAct, Link.post]
    split <;> rfl
  intro hshowing
  rw [hsurface]
  exact h hshowing

end PreviewSession

open PreviewSession in
/-- A session that uses an answer shows the model of this answer or none. -/
theorem Controller.showsSent_applyResponse {property property' : Model → Prop} {root : String}
    {p : Panel} {s : PreviewSession} {r : Response} (hdrained : s.Drained)
    (h : s.ShowsSent property)
    (hr : ∀ model, r.result = .ok model → property' (model.resolve root).value.model) :
    (applyResponse root p s r).value.1.ShowsSent property' := by
  rcases applyResponse_cases root p s r with
    ⟨model, hok, herr, hvalue⟩ | ⟨model, hok, herr, hvalue⟩ | ⟨e, herror, hvalue⟩
  · rw [hvalue]
    have hholding := holds_holding hdrained herr (hr model hok)
    have hwaiting : (s.holding (model.resolve root).value.model).ShowsSent property' := by
      intro hshowing
      simp [holding, PreviewSession.setStatus, herr] at hshowing
    exact hwaiting.flush hholding p
  · rw [hvalue]
    intro hshowing
    rw [(h hshowing).1] at herr
    cases herr
  · rw [hvalue]
    refine h.setStatus ?_ ?_ ?_ property'
    · simp
    · rfl
    · rfl

/-! ## Runs -/

/-- Whether an operation leaves the texts alone that wait at the surface of a panel. -/
def ControllerOp.KeepsTexts (p : Panel) : ControllerOp → Prop
  | .surface q .take => q ≠ p
  | .surface q .leave => q ≠ p
  | _ => True

namespace History

variable {root : String} {h : History} {p : Panel}

/-- What the panel shows has been sent. -/
def ShowsSent (root : String) (p : Panel) (h : History) : Prop :=
  ∀ s, h.controller.sessions.find? p = some s → s.ShowsSent (FromLastAnswer root p h.events)

theorem ShowsSent.handshakes (hs : h.ShowsSent root p) (hp : h.Provenance root) :
    h.handshakes.ShowsSent root p := by
  intro s hfind
  simp only [History.handshakes, Controller.find?_handshakes] at hfind ⊢
  obtain ⟨old, hold, rfl⟩ := Option.map_eq_some_iff.1 hfind
  have hholds := hp.sessions p old hold
  refine (((hs old hold).noted hholds.drained).flush hholds.noted p).mono fun m hm => ?_
  refine hm.append fun r hmem => ?_
  obtain ⟨q, payload, heq⟩ := postedUntil_posted _ _ _ hmem
  cases heq

theorem ShowsSent.answer (hs : h.ShowsSent root p) (hp : h.Provenance root) (hb : h.Bookkept)
    (r : Response) : (h.answer r).ShowsSent root p := by
  rcases Controller.handleResponse_eq_of_inStep hb.inStep r with
    ⟨hwait, -, -, -⟩ | ⟨q, s, hinFlight, hq, hlatest, hvalue, haccept⟩
  · rw [answer_of_not_waited hb.inStep hwait]
    exact hs
  · have hissued : latestIssued q h.events = some r.id :=
      hb.waitsFor_latest q r.id (Controller.waitsFor_eq_some_iff.2 ⟨s, hq, hlatest⟩)
    have hposted (m : Model) (hm : FromLastAnswer root p (h.events ++ [answered q r]) m)
        (c : Controller) :
        FromLastAnswer root p (h.events ++ [answered q r] ++ h.controller.postedUntil c) m := by
      refine hm.append fun r' hmem => ?_
      obtain ⟨q', payload, heq⟩ := postedUntil_posted _ _ _ hmem
      cases heq
    intro s' hfind
    simp only [History.answer, hvalue, haccept, ← List.append_assoc] at hfind ⊢
    refine PreviewSession.ShowsSent.mono ?_ fun m hm => hposted m hm _
    simp only [Controller.afterAnswer, SortedMap.find?_insert, hp.root_eq] at hfind
    split at hfind
    · rename_i heq
      subst heq
      cases hfind
      refine Controller.showsSent_applyResponse (hp.sessions p s hq).drained (hs s hq) ?_
      intro model hok
      exact ⟨h.events, r, [], model, rfl, by simp, hok, rfl, hissued⟩
    · rename_i hne
      refine (hs s' hfind).mono fun m hm => hm.append fun r' hmem => ?_
      simp only [List.mem_singleton, PreviewEvent.answered.injEq] at hmem
      exact hne hmem.1

theorem ShowsSent.step (hs : h.ShowsSent root p) (op : ControllerOp)
    (hop : ∀ responses, op ≠ .pump responses) (hkeeps : op.KeepsTexts p) :
    (h.step op).ShowsSent root p := by
  obtain ⟨es, hevents, hes⟩ := step_events h op hop
  have hissued (m : Model) (hm : FromLastAnswer root p h.events m) :
      FromLastAnswer root p (h.step op).events m := by
    rw [hevents]
    refine hm.append fun r hmem => ?_
    obtain ⟨q, id, heq⟩ := hes _ hmem
    cases heq
  intro s hfind
  refine PreviewSession.ShowsSent.mono ?_ hissued
  have hsession := sessionStep_of_step hop hfind
  cases hold : h.controller.sessions.find? p with
  | none =>
    rw [hold] at hsession
    cases hsession with
    | opened link id uri => exact fun hshowing => by cases hshowing
  | some old =>
    have hshows := hs old hold
    rw [hold] at hsession
    cases hsession with
    | keep => exact hshows
    | expect _ id uri => exact hshows.expect id uri
    | fail _ reason => exact PreviewSession.showsSent_failSurface _ old reason
    | act _ act hact =>
      subst hact
      cases act with
      | post payload => exact hshows.afterPost payload
      | take => exact absurd rfl hkeeps
      | leave => exact absurd rfl hkeeps

/-- As long as the surface of a panel takes nothing and stays, what the panel has come to show is the
last text in its inbox. -/
theorem showsSent_of_keepsTexts (root : String) (ops rest : List ControllerOp) (p : Panel)
    (hbefore : (run root ops).controller.status? p ≠ some .showing)
    (hrest : ∀ op ∈ rest, op.KeepsTexts p) : (run root (ops ++ rest)).ShowsSent root p := by
  have hstart : (run root ops).ShowsSent root p := by
    intro s hs hshowing
    exact absurd (by simp [Controller.status?, hs, hshowing]) hbefore
  have hrun := foldl_step_induction (P := fun h =>
      (h.Bookkept ∧ h.Provenance root) ∧ h.ShowsSent root p) (·.KeepsTexts p)
    (fun h hh => ⟨⟨hh.1.1.handshakes, hh.1.2.handshakes⟩, hh.2.handshakes hh.1.2⟩)
    (fun h r hh => ⟨⟨hh.1.1.answer r, hh.1.2.answer hh.1.1 r⟩, hh.2.answer hh.1.2 hh.1.1 r⟩)
    (fun h op hop hkeeps hh =>
      ⟨⟨hh.1.1.step op hop, hh.1.2.step op hop⟩, hh.2.step op hop hkeeps⟩)
    rest hrest (run root ops) ⟨run_provenance root ops, hstart⟩
  rw [run, List.foldl_append]
  exact hrun.2

/-! ## Models that are accepted -/

/-- Every text posted in a run is the resolved model of the answer that the panel accepted last.  It
is decoded to this model if all numbers of the model are finite, and rejected otherwise.  When a
panel has come to show a model while its surface took no text, the surface with a handler that pumps
next hands the messages it accepts to the handler in their order, and the last of them is the model
of the answer that the panel accepted last exactly if its numbers are finite. -/
theorem posted_model_accepted_iff (root : String) (ops : List ControllerOp) :
    (∀ pre p payload post, (run root ops).events = pre ++ posted p payload :: post →
      ∃ m, FromLastAnswer root p pre m ∧ payload = (RenderMessage.renderModel m).encode ∧
        (AllFinite m.numbers → RenderMessage.decode payload = .ok (.renderModel m)) ∧
        (¬ AllFinite m.numbers → ∃ e, RenderMessage.decode payload = .error e)) ∧
    ∀ rest p s, (run root ops).controller.status? p ≠ some .showing →
      (∀ op ∈ rest, op.KeepsTexts p) →
      (run root (ops ++ rest)).controller.sessions.find? p = some s → s.status = .showing →
      ∃ m, FromLastAnswer root p (run root (ops ++ rest)).events m ∧
        ((SurfaceBridge.accepted s.link.surface.unread).getLast? = some (.renderModel m) ↔
          AllFinite m.numbers) ∧
        ∀ (σ : Type) (b : SurfaceBridge) (handle : σ → RenderMessage → Logged σ) (st : σ),
          b.attached = true →
          (b.pump s.link handle st).value =
            (s.link.setInbox .surface { s.link.surface with unread := [] },
              (SurfaceBridge.accepted s.link.surface.unread).foldl
                (fun st m => (handle st m).value) st,
              (SurfaceBridge.accepted s.link.surface.unread).length) := by
  constructor
  · intro pre p payload post hevents
    obtain ⟨m, hm, rfl⟩ := (run_provenance root ops).2.posted pre p payload post hevents
    have hdecode := RenderMessage.yieldsIff_decode_encode (.renderModel m)
    exact ⟨m, hm, rfl, hdecode.eq_ok, hdecode.exists_error⟩
  · intro rest p s hbefore hrest hs hshowing
    obtain ⟨-, -, m, hm, hlast⟩ := showsSent_of_keepsTexts root ops rest p hbefore hrest s hs hshowing
    refine ⟨m, hm, SurfaceBridge.getLast?_accepted_iff hlast, ?_⟩
    intro σ b handle st hattached
    exact SurfaceBridge.pump_value hattached s.link handle st

/-- A file system with one file, in which a model has a number beyond the largest finite one. -/
def hugeFile : FileSystem where
  isFile path := path == "m.json"
  read _ := .ok "\x7b\"elements\":[\x7b\"from\":[1e39,0,0],\"to\":[1,1,1]\x7d]\x7d".toUTF8

/-- The model in that file. -/
def hugeModel : Model where
  elements := [{ fromCorner := ⟨.ofBits 0x7f800000, 0, 0⟩, toCorner := ⟨1, 1, 1⟩ }]

/-- The model of the file is asked for, the surface is ready, and the answer comes in. -/
def hugeOps : List ControllerOp :=
  [.openPreview 1 .fresh "m.json",
    .surface 1 (.post SurfaceMessage.current.encode),
    .pump [⟨1, loadModel hugeFile "m.json"⟩]]

theorem postedTexts_hugeOps : (run "/pack" hugeOps).events.filterMap postedText? =
    [(RenderMessage.renderModel hugeModel).encode] := by
  decide +kernel

theorem status_hugeOps : (run "/pack" hugeOps).controller.status? 1 = some .showing := by
  decide +kernel

/-- The panel shows the model of the file; whether the surface gets it depends on the numbers. -/
theorem shown_model_of_hugeOps :
    ∃ s m, (run "/pack" hugeOps).controller.sessions.find? 1 = some s ∧ s.status = .showing ∧
      FromLastAnswer "/pack" 1 (run "/pack" hugeOps).events m ∧
      ((SurfaceBridge.accepted s.link.surface.unread).getLast? = some (.renderModel m) ↔
        AllFinite m.numbers) := by
  obtain ⟨s, hs, hshowing⟩ := Option.map_eq_some_iff.1 status_hugeOps
  have hbefore : (run "/pack" []).controller.status? 1 ≠ some .showing := by decide
  have hkeeps : ∀ op ∈ hugeOps, op.KeepsTexts 1 := by simp [hugeOps, ControllerOp.KeepsTexts]
  obtain ⟨m, hm, hlast, -⟩ :=
    (posted_model_accepted_iff "/pack" []).2 hugeOps 1 s hbefore hkeeps hs hshowing
  exact ⟨s, m, hs, hshowing, hm, hlast⟩

/-- It is not so that every posted text is accepted: the panel shows the model of the file although
the surface cannot read it. -/
theorem posted_model_is_rejected :
    (run "/pack" hugeOps).controller.status? 1 = some .showing ∧
      ¬ ∀ pre p payload post,
        (run "/pack" hugeOps).events = pre ++ posted p payload :: post →
        ∃ m, RenderMessage.decode payload = .ok (.renderModel m) := by
  refine ⟨status_hugeOps, fun hall => ?_⟩
  obtain ⟨pre, e, post, hevents, -, htext, -⟩ := List.filterMap_eq_cons_iff.1 postedTexts_hugeOps
  obtain ⟨p, rfl⟩ := postedText?_eq_some_iff.1 htext
  obtain ⟨m, hm⟩ := hall pre p _ post hevents
  have hinfinite : ¬ AllFinite (RenderMessage.renderModel hugeModel).model.numbers := by
    decide +kernel
  obtain ⟨e, he⟩ := (RenderMessage.yieldsIff_decode_encode _).exists_error hinfinite
  rw [hm] at he
  cases he

end History

end ModelPreview
