import Mathlib
import ModelPreview.Proofs.Preview.Operation

/-!
# Where posted models come from

Every model that the controller posts to a panel is the resolved model of the answer that the panel
accepted last, and at the time of acceptance that answer belonged to the latest request of the panel.
A model may be held until the surface announces itself, and a request issued meanwhile does not drop
it.  The posted model therefore belongs to the latest request exactly if no request has been issued
since the answer was accepted.

Main results:

- `History.run_provenance`: what the sessions hold and what has been posted, in every run.
- `History.posted_model_is_latest_iff`: the origin of a posted model, and when it is the latest one.
- `History.superseded_model_is_posted`: a run that posts the model of a superseded request.
-/

namespace ModelPreview

open PreviewEvent

/-- A model is the resolved model of the answer that a panel accepted last, and that answer was the
one to the latest request of the panel when it was accepted. -/
def FromLastAnswer (root : String) (p : Panel) (es : List PreviewEvent) (m : Model) : Prop :=
  ∃ before r between model,
    es = before ++ answered p r :: between ∧
    (∀ r', answered p r' ∉ between) ∧
    r.result = .ok model ∧
    m = (model.resolve root).value.model ∧
    latestIssued p before = some r.id

/-- Later events keep the origin of a model as long as the panel accepts no other answer. -/
theorem FromLastAnswer.append {root : String} {p : Panel} {es fs : List PreviewEvent} {m : Model}
    (h : FromLastAnswer root p es m) (hfs : ∀ r, answered p r ∉ fs) :
    FromLastAnswer root p (es ++ fs) m := by
  obtain ⟨before, r, between, model, rfl, hlast, hok, hm, hlatest⟩ := h
  refine ⟨before, r, between ++ fs, model, by simp, ?_, hok, hm, hlatest⟩
  intro r' hmem
  rcases List.mem_append.1 hmem with hmem | hmem
  · exact hlast r' hmem
  · exact hfs r' hmem

/-! ## What a session holds -/

namespace PreviewSession

/-- What is known about a session whose held model has a certain property. -/
structure Holds (property : Model → Prop) (s : PreviewSession) : Prop where
  /-- Nothing that could be posted waits in the backlog. -/
  drained : s.Drained
  /-- A session whose surface has failed holds nothing. -/
  failed : s.surfaceError.isSome = true → s.pendingModel = none
  /-- The model held has the property. -/
  held : ∀ m, s.pendingModel = some m → property m

variable {property : Model → Prop} {s : PreviewSession}

theorem Holds.mono {property' : Model → Prop} (h : s.Holds property)
    (himp : ∀ m, property m → property' m) : s.Holds property' :=
  ⟨h.drained, h.failed, fun m hm => himp m (h.held m hm)⟩

theorem holds_new (property : Model → Prop) (link : Link) :
    PreviewSession.Holds property { link := link } :=
  ⟨.inl rfl, fun h => by simp at h, fun m hm => by simp at hm⟩

theorem Holds.expect (h : s.Holds property) (id : Nat) (uri : String) :
    (s.expect id uri).Holds property := by
  unfold PreviewSession.expect setStatus
  split
  · exact ⟨h.drained, h.failed, h.held⟩
  · exact ⟨h.drained, h.failed, h.held⟩

theorem Holds.failSurface (h : s.Holds property) (reason : String) :
    (s.failSurface reason).Holds property :=
  ⟨h.drained, fun _ => rfl, fun m hm => by simp [PreviewSession.failSurface] at hm⟩

theorem Holds.afterAct (h : s.Holds property) (act : SurfaceAct) :
    PreviewSession.Holds property { s with link := s.link.afterAct act } := by
  refine ⟨?_, h.failed, h.held⟩
  rcases h.drained with hbacklog | hgone
  · exact .inl hbacklog
  · -- A surface that is gone does not come back.
    refine .inr ?_
    cases act with
    | post payload =>
      by_cases hhost : s.link.host.isOpen = true
      · simp [Link.afterAct, Link.post, Side.other, Link.inbox, Link.setInbox, hhost, hgone]
      · simp [Link.afterAct, Link.post, Side.other, Link.inbox, hhost, hgone]
    | take =>
      simp only [Link.afterAct, Link.receive, Link.inbox]
      split <;> exact hgone
    | leave => rfl

theorem Holds.noted (h : s.Holds property) : s.noted.Holds property := by
  refine ⟨drained_noted h.drained, ?_, fun m hm => h.held m (pendingModel_noted hm)⟩
  unfold PreviewSession.noted
  dsimp only
  split
  · exact fun _ => rfl
  · exact h.failed

theorem Holds.flush (h : s.Holds property) (p : Panel) : (s.flush p).value.1.Holds property := by
  refine ⟨drained_flush h.drained p, ?_, fun m hm => h.held m (pendingModel_flush hm)⟩
  rw [flush_value]
  split
  · exact h.failed
  · exact fun _ => pendingModel_afterSending s _

/-- What a session posts has the property of the model it holds. -/
theorem Holds.sentTexts (h : s.Holds property) {payload : String} (hmem : payload ∈ s.sentTexts) :
    ∃ m, property m ∧ payload = (RenderMessage.renderModel m).encode := by
  unfold PreviewSession.sentTexts at hmem
  split at hmem
  · rename_i m hsend
    have hpending : s.pendingModel = some m := (sendable?_eq_some_iff.1 hsend).1
    split at hmem
    · exact ⟨m, h.held m hpending, List.mem_singleton.1 hmem⟩
    · cases hmem
  · cases hmem

/-- The session that holds the model of an answer, before it is sent. -/
def holding (s : PreviewSession) (m : Model) : PreviewSession :=
  { s with latestRequest := none, pendingModel := some m }.setStatus .waiting

theorem link_holding (s : PreviewSession) (m : Model) : (s.holding m).link = s.link := by
  unfold holding setStatus
  split <;> rfl

theorem holds_holding (hdrained : s.Drained) (herr : s.surfaceError = none) {m : Model}
    (hm : property m) : (s.holding m).Holds property := by
  simp only [holding, setStatus, herr, Option.isNone_none, if_true]
  refine ⟨hdrained, fun h => by simp at h, fun m' hm' => ?_⟩
  cases hm'
  exact hm

end PreviewSession

open PreviewSession in
/-- Using an answer: a model is held and sent at once if that is possible, unless the surface has
failed; an error drops what was held. -/
theorem Controller.applyResponse_cases (root : String) (p : Panel) (s : PreviewSession)
    (r : Response) :
    (∃ model, r.result = .ok model ∧ s.surfaceError = none ∧
        (applyResponse root p s r).value =
          ((s.holding (model.resolve root).value.model).flush p).value) ∨
      (∃ model, r.result = .ok model ∧ s.surfaceError.isSome = true ∧
        (applyResponse root p s r).value = ({ s with latestRequest := none }, false)) ∨
      ∃ e, r.result = .error e ∧
        (applyResponse root p s r).value =
          ({ s with latestRequest := none, pendingModel := none }.setStatus
            (.unavailable e.message), false) := by
  cases hr : r.result with
  | error e => exact .inr (.inr ⟨e, rfl, by simp [applyResponse, hr]⟩)
  | ok model =>
    cases herr : s.surfaceError with
    | none =>
      refine .inl ⟨model, rfl, rfl, ?_⟩
      simp only [applyResponse, hr, herr, holding, Logged.value_bind]
      split <;> rfl
    | some reason =>
      refine .inr (.inl ⟨model, rfl, rfl, ?_⟩)
      simp only [applyResponse, hr, herr, Logged.value_bind]
      split <;> rfl

/-! ## The invariant of a run -/

namespace History

/-- Every posted text of a list of events is a model of the answer accepted last. -/
def PostsLastAnswers (root : String) (es : List PreviewEvent) : Prop :=
  ∀ pre p payload post, es = pre ++ posted p payload :: post →
    ∃ m, FromLastAnswer root p pre m ∧ payload = (RenderMessage.renderModel m).encode

theorem PostsLastAnswers.append {root : String} {es fs : List PreviewEvent}
    (hes : PostsLastAnswers root es)
    (hfs : ∀ pre p payload post, fs = pre ++ posted p payload :: post →
      ∃ m, FromLastAnswer root p (es ++ pre) m ∧
        payload = (RenderMessage.renderModel m).encode) :
    PostsLastAnswers root (es ++ fs) := by
  intro pre p payload post heq
  rcases split_append heq with ⟨mid, hold, -⟩ | ⟨mid, rfl, hnew⟩
  · exact hes pre p payload mid hold
  · exact hfs mid p payload post hnew

/-! ### What one operation can do -/

/-- How an operation other than a pump can change the session of a panel. -/
inductive SessionStep (op : ControllerOp) (p : Panel) :
    Option PreviewSession → PreviewSession → Prop where
  /-- The session is left alone. -/
  | keep (s : PreviewSession) : SessionStep op p (some s) s
  /-- A new session waits for its first request. -/
  | opened (link : Link) (id : Nat) (uri : String) :
    SessionStep op p none (PreviewSession.expect { link := link } id uri)
  /-- The session waits for another request. -/
  | expect (s : PreviewSession) (id : Nat) (uri : String) :
    SessionStep op p (some s) (s.expect id uri)
  /-- The surface has failed. -/
  | fail (s : PreviewSession) (reason : String) : SessionStep op p (some s) (s.failSurface reason)
  /-- The surface has acted. -/
  | act (s : PreviewSession) (act : SurfaceAct) (hop : op = .surface p act) :
    SessionStep op p (some s) { s with link := s.link.afterAct act }

theorem sessionStep_of_sessionAfter {op : ControllerOp} {p : Panel} {id : Nat}
    {o : Option PreviewSession} {s : PreviewSession} (hop : op.panel? = some p)
    (hs : op.sessionAfter id o = some s) : SessionStep op p o s := by
  cases op with
  | openPreview q link uri =>
    cases hs
    cases o with
    | none => exact .opened link id uri
    | some old => exact .expect old id uri
  | documentChanged q uri =>
    obtain ⟨old, rfl, rfl⟩ := Option.map_eq_some_iff.1 hs
    exact .expect old id uri
  | closePanel q => cases hs
  | surfaceFailed q reason =>
    obtain ⟨old, rfl, rfl⟩ := Option.map_eq_some_iff.1 hs
    exact .fail old reason
  | pump responses => cases hop
  | surface q act =>
    cases hop
    obtain ⟨old, rfl, rfl⟩ := Option.map_eq_some_iff.1 hs
    exact .act old act rfl

theorem sessionStep_of_step {h : History} {op : ControllerOp}
    (hop : ∀ responses, op ≠ .pump responses) {p : Panel} {s : PreviewSession}
    (hs : (h.step op).controller.sessions.find? p = some s) :
    SessionStep op p (h.controller.sessions.find? p) s := by
  obtain ⟨q, hq⟩ := ControllerOp.exists_panel?_of_ne_pump hop
  rw [find?_step h hq] at hs
  by_cases hp : p = q
  · subst hp
    rw [if_pos rfl] at hs
    exact sessionStep_of_sessionAfter hq hs
  · rw [if_neg hp] at hs
    rw [hs]
    exact .keep s

/-- Operations other than pumps note requests and nothing else. -/
theorem step_events (h : History) (op : ControllerOp) (hop : ∀ responses, op ≠ .pump responses) :
    ∃ es, (h.step op).events = h.events ++ es ∧ ∀ e ∈ es, ∃ q id, e = issued q id := by
  obtain ⟨q, hq⟩ := ControllerOp.exists_panel?_of_ne_pump hop
  refine ⟨_, events_step h hq, ?_⟩
  split <;> simp

/-! ### Invariant -/

/-- What the sessions of a run hold and what the run has posted. -/
structure Provenance (root : String) (h : History) : Prop where
  /-- The textures are looked up in one place. -/
  root_eq : h.controller.root = root
  /-- Every session holds a model of the answer it accepted last, or none. -/
  sessions : ∀ p s, h.controller.sessions.find? p = some s →
    s.Holds (FromLastAnswer root p h.events)
  /-- Every model posted was one of the answer accepted last. -/
  posted : PostsLastAnswers root h.events

variable {root : String} {h : History}

theorem provenance_start (root : String) : (start root).Provenance root where
  root_eq := rfl
  sessions := by simp [start]
  posted := by simp [start, PostsLastAnswers]

/-- Steps that post nothing and accept no answer, session by session. -/
theorem Provenance.of_sessions {c : Controller} {es : List PreviewEvent}
    (hp : h.Provenance root) (hroot : c.root = h.controller.root)
    (hes : ∀ e ∈ es, ∃ q id, e = issued q id)
    (hsessions : ∀ q s, c.sessions.find? q = some s →
      s.Holds (FromLastAnswer root q h.events)) :
    (⟨c, h.events ++ es⟩ : History).Provenance root := by
  refine ⟨hroot.trans hp.root_eq, fun q s hs => ?_, hp.posted.append ?_⟩
  · refine (hsessions q s hs).mono fun m hm => hm.append fun r hmem => ?_
    obtain ⟨q', id, heq⟩ := hes _ hmem
    cases heq
  · intro pre q payload post heq
    obtain ⟨q', id, hissued⟩ := hes (.posted q payload) (by simp [heq])
    cases hissued

theorem Provenance.step (hp : h.Provenance root) (op : ControllerOp)
    (hop : ∀ responses, op ≠ .pump responses) : (h.step op).Provenance root := by
  obtain ⟨es, hevents, hes⟩ := step_events h op hop
  have hhistory : h.step op = ⟨(h.step op).controller, h.events ++ es⟩ := by rw [← hevents]
  rw [hhistory]
  refine hp.of_sessions (step_root h op hop) hes fun p s hs => ?_
  have hsession := sessionStep_of_step hop hs
  cases hold : h.controller.sessions.find? p with
  | none =>
    rw [hold] at hsession
    cases hsession with
    | opened link id uri => exact (PreviewSession.holds_new _ link).expect id uri
  | some old =>
    have hholds := hp.sessions p old hold
    rw [hold] at hsession
    cases hsession with
    | keep => exact hholds
    | expect _ id uri => exact hholds.expect id uri
    | fail _ reason => exact hholds.failSurface reason
    | act _ act hact => exact hholds.afterAct act

/-! ### Posting -/

/-- A step after which every session has posted the texts it could send, with a property that the
events so far give to all of them. -/
theorem Provenance.append_posted {c : Controller} {es : List PreviewEvent}
    (sender : Panel → Option PreviewSession) (hold : PostsLastAnswers root es)
    (hsender : ∀ p s, sender p = some s → s.Holds (FromLastAnswer root p es))
    (hposts : ∀ e ∈ h.controller.postedUntil c,
      ∃ p s payload, sender p = some s ∧ payload ∈ s.sentTexts ∧ e = .posted p payload) :
    PostsLastAnswers root (es ++ h.controller.postedUntil c) := by
  refine hold.append fun pre p payload post heq => ?_
  obtain ⟨q, s, payload', hs, hmem, hsame⟩ := hposts (.posted p payload) (by simp [heq])
  obtain ⟨rfl, rfl⟩ := PreviewEvent.posted.inj hsame
  obtain ⟨m, hm, rfl⟩ := (hsender p s hs).sentTexts hmem
  refine ⟨m, hm.append fun r hanswered => ?_, rfl⟩
  -- The texts posted before in the same step are no answers.
  have hin : answered p r ∈ h.controller.postedUntil c := by simp [heq, hanswered]
  obtain ⟨q', payload'', hposted⟩ := postedUntil_posted _ _ _ hin
  cases hposted

theorem mem_postedUntil_iff {c c' : Controller} {e : PreviewEvent} :
    e ∈ c.postedUntil c' ↔ ∃ p s payload, c'.sessions.find? p = some s ∧
      payload ∈ s.link.surface.unread.drop (c.inbox p).length ∧ e = .posted p payload := by
  simp only [Controller.postedUntil, List.mem_flatMap, List.mem_map, SortedMap.mem_keys_iff]
  constructor
  · rintro ⟨p, ⟨s, hs⟩, payload, hmem, rfl⟩
    exact ⟨p, s, payload, hs, by simpa [Controller.inbox, hs] using hmem, rfl⟩
  · rintro ⟨p, s, payload, hs, hmem, rfl⟩
    exact ⟨p, ⟨s, hs⟩, payload, by simpa [Controller.inbox, hs] using hmem, rfl⟩

theorem Provenance.handshakes (hp : h.Provenance root) : h.handshakes.Provenance root := by
  have hnoted : ∀ p s, (h.controller.sessions.find? p).map PreviewSession.noted = some s →
      s.Holds (FromLastAnswer root p h.events) := by
    intro p s hs
    obtain ⟨old, hold, rfl⟩ := Option.map_eq_some_iff.1 hs
    exact (hp.sessions p old hold).noted
  refine ⟨hp.root_eq, fun p s hs => ?_, ?_⟩
  · simp only [History.handshakes, Controller.find?_handshakes] at hs
    obtain ⟨old, hold, rfl⟩ := Option.map_eq_some_iff.1 hs
    refine ((hp.sessions p old hold).noted.flush p).mono fun m hm => hm.append fun r hmem => ?_
    obtain ⟨q, payload, heq⟩ := postedUntil_posted _ _ _ hmem
    cases heq
  · refine Provenance.append_posted _ hp.posted hnoted fun e he => ?_
    obtain ⟨p, s, payload, hs, hmem, rfl⟩ := mem_postedUntil_iff.1 he
    rw [Controller.find?_handshakes] at hs
    obtain ⟨old, hold, rfl⟩ := Option.map_eq_some_iff.1 hs
    have hdrained : old.Drained := (hp.sessions p old hold).drained
    refine ⟨p, old.noted, payload, by simp [hold], ?_, rfl⟩
    rw [PreviewSession.unread_flush (PreviewSession.drained_noted hdrained),
      (PreviewSession.noted_of_drained hdrained).2] at hmem
    simpa [Controller.inbox, hold] using hmem

/-- The session that sends when an answer is accepted: the one of the panel, holding the model of
the answer. -/
theorem Provenance.applyResponse {p : Panel} {s : PreviewSession} {r : Response}
    (hs : s.Holds (FromLastAnswer root p h.events))
    (hlatest : latestIssued p h.events = some r.id) :
    (Controller.applyResponse root p s r).value.1.Holds
        (FromLastAnswer root p (h.events ++ [answered p r])) ∧
      ∃ sender : PreviewSession,
        sender.Holds (FromLastAnswer root p (h.events ++ [answered p r])) ∧
        (Controller.applyResponse root p s r).value.1.link.surface.unread =
          s.link.surface.unread ++ sender.sentTexts := by
  rcases Controller.applyResponse_cases root p s r with
    ⟨model, hok, herr, hvalue⟩ | ⟨model, hok, herr, hvalue⟩ | ⟨e, herror, hvalue⟩
  · let m := (model.resolve root).value.model
    have horigin : FromLastAnswer root p (h.events ++ [answered p r]) m :=
      ⟨h.events, r, [], model, rfl, by simp, hok, rfl, hlatest⟩
    have hholding : (s.holding m).Holds (FromLastAnswer root p (h.events ++ [answered p r])) :=
      PreviewSession.holds_holding hs.drained herr horigin
    rw [hvalue]
    refine ⟨hholding.flush p, s.holding m, hholding, ?_⟩
    rw [PreviewSession.unread_flush hholding.drained, PreviewSession.link_holding]
  · have hnone : s.pendingModel = none := hs.failed herr
    have hafter : PreviewSession.Holds (FromLastAnswer root p (h.events ++ [answered p r]))
        { s with latestRequest := none } :=
      ⟨hs.drained, hs.failed, fun m hm => by simp [hnone] at hm⟩
    rw [hvalue]
    refine ⟨hafter, { s with latestRequest := none }, hafter, ?_⟩
    simp [PreviewSession.sentTexts, PreviewSession.sendable?, hnone]
  · have hafter : PreviewSession.Holds (FromLastAnswer root p (h.events ++ [answered p r]))
        { s with latestRequest := none, pendingModel := none } :=
      ⟨hs.drained, fun _ => rfl, fun m hm => by simp at hm⟩
    rw [hvalue]
    refine ⟨?_, _, hafter, ?_⟩
    · unfold PreviewSession.setStatus
      split
      · exact ⟨hafter.drained, hafter.failed, hafter.held⟩
      · exact hafter
    · have hnothing : PreviewSession.sentTexts
          { s with latestRequest := none, pendingModel := none } = [] := by
        simp [PreviewSession.sentTexts, PreviewSession.sendable?]
      rw [hnothing, List.append_nil]
      unfold PreviewSession.setStatus
      split <;> rfl

theorem Provenance.answer (hp : h.Provenance root) (hb : h.Bookkept) (r : Response) :
    (h.answer r).Provenance root := by
  rcases Controller.handleResponse_eq_of_inStep hb.inStep r with
    ⟨hwait, -, -, -⟩ | ⟨p, s, hinFlight, hs, hlatest, hvalue, haccept⟩
  · rw [answer_of_not_waited hb.inStep hwait]
    exact hp
  · have hissued : latestIssued p h.events = some r.id :=
      hb.waitsFor_latest p r.id (Controller.waitsFor_eq_some_iff.2 ⟨s, hs, hlatest⟩)
    obtain ⟨hsession, sender, hsender, hunread⟩ :=
      Provenance.applyResponse (hp.sessions p s hs) hissued
    have hother : ∀ q s', q ≠ p → h.controller.sessions.find? q = some s' →
        s'.Holds (FromLastAnswer root q (h.events ++ [answered p r])) := by
      intro q s' hq hs'
      refine (hp.sessions q s' hs').mono fun m hm => hm.append fun r' hmem => ?_
      simp only [List.mem_singleton, PreviewEvent.answered.injEq] at hmem
      exact hq hmem.1
    have hfind : ∀ q, (h.controller.afterAnswer p s r).sessions.find? q =
        if q = p then some (Controller.applyResponse root p s r).value.1
        else h.controller.sessions.find? q := by
      intro q
      simp only [Controller.afterAnswer, SortedMap.find?_insert, hp.root_eq]
    have hposted : PostsLastAnswers root (h.events ++ [answered p r]) := by
      refine hp.posted.append fun pre q payload post heq => ?_
      have hmem : PreviewEvent.posted q payload ∈ [answered p r] := by simp [heq]
      simp at hmem
    simp only [History.answer, hvalue, haccept, ← List.append_assoc]
    refine ⟨hp.root_eq, fun q s' hs' => ?_, ?_⟩
    · have hholds : s'.Holds (FromLastAnswer root q (h.events ++ [answered p r])) := by
        rw [hfind] at hs'
        split at hs'
        · rename_i hq
          cases hs'
          exact hq ▸ hsession
        · rename_i hq
          exact hother q s' hq hs'
      refine hholds.mono fun m hm => hm.append fun r' hmem => ?_
      obtain ⟨q', payload, heq⟩ := postedUntil_posted _ _ _ hmem
      cases heq
    · refine Provenance.append_posted (fun q => if q = p then some sender else none) hposted
        (fun q s' hs' => ?_) fun e he => ?_
      · split at hs'
        · rename_i hq
          cases hs'
          exact hq ▸ hsender
        · cases hs'
      · obtain ⟨q, s', payload, hs', hmem, rfl⟩ := mem_postedUntil_iff.1 he
        rw [hfind] at hs'
        split at hs'
        · rename_i hq
          cases hs'
          refine ⟨q, sender, payload, by simp [hq], ?_, rfl⟩
          rw [hunread, hq] at hmem
          simpa [Controller.inbox, hs] using hmem
        · simp [Controller.inbox, hs'] at hmem

theorem run_provenance (root : String) (ops : List ControllerOp) :
    (run root ops).Bookkept ∧ (run root ops).Provenance root :=
  run_induction (P := fun h => h.Bookkept ∧ h.Provenance root)
    ⟨bookkept_start root, provenance_start root⟩
    (fun _ hh => ⟨hh.1.handshakes, hh.2.handshakes⟩)
    (fun _ r hh => ⟨hh.1.answer r, hh.2.answer hh.1 r⟩)
    (fun _ op hop hh => ⟨hh.1.step op hop, hh.2.step op hop⟩) ops

/-! ## The origin of a posted model -/

/-- Requests issued later have larger numbers. -/
theorem Bookkept.lt_of_issued (hb : h.Bookkept) {before between after : List PreviewEvent}
    (hevents : h.events = before ++ (between ++ after)) {p : Panel} {id id' : Nat}
    (hid : issued p id ∈ before) (hid' : issued p id' ∈ between) : id < id' := by
  have hincreasing := hb.issued_increasing
  rw [hevents, List.filterMap_append, List.pairwise_append] at hincreasing
  refine hincreasing.2.2 id ?_ id' ?_
  · exact List.mem_filterMap.2 ⟨_, hid, rfl⟩
  · exact List.mem_filterMap.2 ⟨_, List.mem_append_left after hid', rfl⟩

/-- Whenever a run posts a text to a panel, the text is the resolved model of the successful answer
that the panel accepted last; when it was accepted, that answer was the one to the latest request of
the panel.  At the moment of posting it still is exactly if no request has been issued for the panel
in between. -/
theorem posted_model_is_latest_iff (root : String) (ops : List ControllerOp)
    {pre post : List PreviewEvent} {p : Panel} {payload : String}
    (hposted : (run root ops).events = pre ++ posted p payload :: post) :
    ∃ before r between model,
      pre = before ++ answered p r :: between ∧
      (∀ r', answered p r' ∉ between) ∧
      r.result = .ok model ∧
      payload = (RenderMessage.renderModel (model.resolve root).value.model).encode ∧
      latestIssued p before = some r.id ∧
      (latestIssued p pre = some r.id ↔ ∀ id, issued p id ∉ between) := by
  obtain ⟨hb, hp⟩ := run_provenance root ops
  obtain ⟨m, ⟨before, r, between, model, rfl, hlast, hok, rfl, hlatest⟩, rfl⟩ :=
    hp.posted pre p payload post hposted
  refine ⟨before, r, between, model, rfl, hlast, hok, rfl, hlatest, ?_⟩
  rw [latestIssued_append, hlatest]
  constructor
  · intro hpre id hid
    cases hbetween : latestIssued p (answered p r :: between) with
    | none =>
      have hnone : id ∈ (answered p r :: between).filterMap (issuedFor? p) :=
        List.mem_filterMap.2 ⟨_, List.mem_cons_of_mem _ hid, by simp [issuedFor?]⟩
      rw [List.getLast?_eq_none_iff.1 hbetween] at hnone
      cases hnone
    | some id' =>
      -- The request issued in between has a larger number than the answered one.
      have hmem : issued p id' ∈ answered p r :: between := issued_mem_of_latestIssued hbetween
      have hevents : (run root ops).events = before ++ ((answered p r :: between) ++
          posted p (RenderMessage.renderModel (model.resolve root).value.model).encode :: post) := by
        simpa using hposted
      have hlt := hb.lt_of_issued hevents (issued_mem_of_latestIssued hlatest) hmem
      rw [hbetween] at hpre
      have heq : id' = r.id := by simpa using hpre
      omega
  · intro hnone
    have hbetween : latestIssued p ([answered p r] ++ between) = latestIssued p [answered p r] :=
      latestIssued_append_of_forall hnone
    have hnothing : latestIssued p [answered p r] = none := rfl
    rw [List.singleton_append, hnothing] at hbetween
    rw [hbetween]
    rfl

/-- A run in which a document is changed while the model of the previous one is held: the surface
announces itself only afterwards. -/
def supersedingOps : List ControllerOp :=
  [.openPreview 1 .fresh "a.json",
    .pump [⟨1, .ok { elements := [] }⟩],
    .documentChanged 1 "b.json",
    .surface 1 (.post SurfaceMessage.current.encode),
    .pump []]

theorem events_supersedingOps :
    (run "/pack" supersedingOps).events =
      [issued 1 1, answered 1 ⟨1, .ok { elements := [] }⟩, issued 1 2] ++
        posted 1 (RenderMessage.renderModel { elements := [] }).encode :: [] := by
  cbv

theorem posted_model_of_supersedingOps :
    ∃ before r between model,
      [issued 1 1, answered 1 ⟨1, .ok { elements := [] }⟩, issued 1 2] =
        before ++ answered 1 r :: between ∧
      (∀ r', answered 1 r' ∉ between) ∧
      r.result = .ok model ∧
      (RenderMessage.renderModel { elements := [] }).encode =
        (RenderMessage.renderModel (model.resolve "/pack").value.model).encode ∧
      latestIssued 1 before = some r.id ∧
      (latestIssued 1 [issued 1 1, answered 1 ⟨1, .ok { elements := [] }⟩, issued 1 2] =
        some r.id ↔ ∀ id, issued 1 id ∉ between) :=
  posted_model_is_latest_iff "/pack" supersedingOps events_supersedingOps

/-- It is not so that every posted model belongs to the latest request of its panel: the model of the
first document is posted although the second one has been asked for. -/
theorem superseded_model_is_posted :
    ¬ ∀ pre p payload post,
      (run "/pack" supersedingOps).events = pre ++ posted p payload :: post →
      ∃ r model, answered p r ∈ pre ∧ latestIssued p pre = some r.id ∧ r.result = .ok model ∧
        payload = (RenderMessage.renderModel (model.resolve "/pack").value.model).encode := by
  intro hall
  obtain ⟨r, model, hmem, hlatest, -, -⟩ := hall _ _ _ _ events_supersedingOps
  have hid : r.id = 1 := by
    simp only [List.mem_cons, reduceCtorEq, PreviewEvent.answered.injEq, false_or, or_false,
      List.not_mem_nil, true_and] at hmem
    rw [hmem]
  have hsecond : latestIssued 1
      [issued 1 1, answered 1 ⟨1, .ok { elements := [] }⟩, issued 1 2] = some 2 := rfl
  rw [hsecond, hid] at hlatest
  cases hlatest

end History
end ModelPreview
