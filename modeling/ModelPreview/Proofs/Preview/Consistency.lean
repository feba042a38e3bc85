import Mathlib
import ModelPreview.Proofs.Bridge.Handshake
import ModelPreview.Proofs.Preview.AnswerOrder
import ModelPreview.Proofs.Preview.PanelStep

/-!
# Consistent sessions

The parts of a session agree with each other between any two operations: a model is held only for a
surface that has neither announced itself nor failed, the status tells what the session waits for, and
the bridge keeps something back only for a surface that is gone.  In the middle of a pump, before the
session sends, only the first of these can be broken (`PreviewSession.Coherent`), and sending restores
it.  The backlog of the bridge is therefore never used to wait for the surface, and every model sent
is one text at one surface: this is what a pump counts.

Main definitions:

- `PreviewSession.Coherent` and `PreviewSession.Consistent`: the parts of a session agree, before and
  after it sends.
- `Controller.Appends`: what texts the surfaces gain from one state of the controller to another.

Main results:

- `PanelStep.consistent`: every step of a panel leaves its session consistent.
- `History.sessions_consistent_and_pump_counts`: the same for runs, with the number that a pump
  returns.
-/

namespace ModelPreview

open PreviewEvent

/-! ## Sessions -/

namespace PreviewSession

/-- The parts of a session agree with each other, except that it may hold a model which it could
send. -/
structure Coherent (s : PreviewSession) : Prop where
  /-- A surface that has failed leaves its reason and no model. -/
  failed : ∀ reason, s.surfaceError = some reason →
    s.status = .unavailable reason ∧ s.pendingModel = none
  /-- What waits for the surface is a model, and nothing is asked for. -/
  waiting : s.status = .waiting → s.pendingModel.isSome = true ∧ s.latestRequest = none
  /-- What is loading has been asked for. -/
  loading : s.status = .loading → s.latestRequest.isSome = true
  /-- Nothing is kept back but from a surface that is gone. -/
  backlog : s.bridge.backlog ≠ [] → s.bridge.ready = true ∧ s.link.surface.isOpen = false

/-- A session between two operations. -/
structure Consistent (s : PreviewSession) : Prop extends s.Coherent where
  /-- A model is held only before the surface has announced itself. -/
  held : s.pendingModel.isSome = true → s.bridge.ready = false

variable {s : PreviewSession}

theorem Coherent.drained (h : s.Coherent) : s.Drained := by
  by_cases hbacklog : s.bridge.backlog = []
  · exact .inl hbacklog
  · exact .inr (h.backlog hbacklog).2

/-- A session that holds a model has a surface that has not failed. -/
theorem Coherent.surfaceError_eq_none (h : s.Coherent) (hheld : s.pendingModel.isSome = true) :
    s.surfaceError = none := by
  cases herr : s.surfaceError with
  | none => rfl
  | some reason =>
    rw [(h.failed reason herr).2] at hheld
    cases hheld

/-- What is sent leaves the session; what cannot be sent stays in the backlog for good. -/
theorem consistent_afterSending {m : Model} (hsend : s.sendable? = some m) :
    (s.afterSending m).Consistent := by
  obtain ⟨-, hready, herr⟩ := sendable?_eq_some_iff.1 hsend
  unfold PreviewSession.afterSending
  split
  · exact ⟨⟨by simp [herr], nofun, nofun, fun hne => absurd rfl hne⟩, nofun⟩
  · rename_i hopen
    exact ⟨⟨by simp [herr], nofun, nofun, fun _ => ⟨hready, by simpa using hopen⟩⟩, nofun⟩

/-- Sending leaves no model behind that could be sent. -/
theorem Coherent.flush (h : s.Coherent) (p : Panel) : (s.flush p).value.1.Consistent := by
  rw [flush_value]
  cases hsend : s.sendable? with
  | none =>
    refine ⟨h, ?_⟩
    intro hheld
    obtain ⟨m, hm⟩ := Option.isSome_iff_exists.1 hheld
    by_contra hready
    have hsome := sendable?_eq_some_iff.2 ⟨hm, by simpa using hready, h.surfaceError_eq_none hheld⟩
    rw [hsend] at hsome
    cases hsome
  | some m => exact consistent_afterSending hsend

theorem coherent_failSurface (reason : String)
    (hbacklog : s.bridge.backlog ≠ [] → s.bridge.ready = true ∧ s.link.surface.isOpen = false) :
    (s.failSurface reason).Coherent where
  failed reason' h := by
    cases h
    exact ⟨rfl, rfl⟩
  waiting := nofun
  loading := nofun
  backlog := hbacklog

/-- Taking note of what the surface has posted leaves a session that may have something to send. -/
theorem Coherent.noted (h : s.Coherent) : s.noted.Coherent := by
  obtain ⟨hbacklog, hsurface⟩ := noted_of_drained h.drained
  have hready : s.bridge.ready = true → s.noted.bridge.ready = true := by
    have hbridge : s.noted.bridge = (s.bridge.pump s.link).value.bridge := by
      unfold PreviewSession.noted
      dsimp only
      split <;> rfl
    rw [hbridge]
    exact (s.bridge.runs_handleAll s.link s.link.host.unread).ready
  have hkept : s.noted.bridge.backlog ≠ [] →
      s.noted.bridge.ready = true ∧ s.noted.link.surface.isOpen = false := by
    rw [hbacklog, hsurface]
    intro hne
    exact ⟨hready (h.backlog hne).1, (h.backlog hne).2⟩
  rcases noted_eq s with ⟨reason, hnoted⟩ | hnoted
  · rw [hnoted]
    exact coherent_failSurface reason hkept
  · rw [hnoted]
    exact ⟨h.failed, h.waiting, h.loading, hkept⟩

/-- The status of a session whose surface has failed tells neither of waiting nor of loading. -/
theorem Coherent.status_ne (h : s.Coherent) (herr : s.surfaceError ≠ none) :
    s.status ≠ .waiting ∧ s.status ≠ .loading := by
  obtain ⟨reason, hreason⟩ := Option.ne_none_iff_exists'.1 herr
  simp [(h.failed reason hreason).1]

/-- A session that waits for a request just issued. -/
theorem Consistent.expect (h : s.Consistent) (id : Nat) (uri : String) :
    (s.expect id uri).Consistent := by
  unfold PreviewSession.expect setStatus
  split
  · rename_i herr
    have hnone : s.surfaceError = none := by simpa using herr
    exact ⟨⟨by simp [hnone], nofun, fun _ => rfl, h.backlog⟩, h.held⟩
  · rename_i herr
    have hstatus := h.status_ne (by simpa using herr)
    exact ⟨⟨h.failed, fun hwaiting => absurd hwaiting hstatus.1, fun _ => rfl, h.backlog⟩, h.held⟩

theorem consistent_new (link : Link) (id : Nat) (uri : String) :
    (PreviewSession.expect { link := link } id uri).Consistent :=
  ⟨⟨nofun, nofun, fun _ => rfl, fun hne => absurd rfl hne⟩, nofun⟩

theorem Consistent.afterAct (h : s.Consistent) (act : SurfaceAct) :
    PreviewSession.Consistent { s with link := s.link.afterAct act } := by
  have hholds : s.Holds fun _ => True := by
    refine ⟨h.drained, ?_, fun _ _ => trivial⟩
    intro herr
    obtain ⟨reason, hreason⟩ := Option.isSome_iff_exists.1 herr
    exact (h.failed reason hreason).2
  refine ⟨⟨h.failed, h.waiting, h.loading, ?_⟩, h.held⟩
  intro hne
  exact ⟨(h.backlog hne).1, (hholds.afterAct act).drained.resolve_left hne⟩

theorem Coherent.holding (h : s.Coherent) (herr : s.surfaceError = none) (m : Model) :
    (s.holding m).Coherent := by
  simp only [PreviewSession.holding, setStatus, herr, Option.isNone_none, if_true]
  refine ⟨?_, fun _ => ⟨rfl, rfl⟩, ?_, h.backlog⟩
  · intro reason hreason
    cases hreason
  · intro hloading
    cases hloading

/-- A session that has used an answer without holding a model. -/
theorem Consistent.refused (h : s.Consistent) (reason : String) :
    (PreviewSession.setStatus { s with latestRequest := none, pendingModel := none }
      (.unavailable reason)).Consistent := by
  unfold setStatus
  split
  · rename_i herr
    have hnone : s.surfaceError = none := by simpa using herr
    exact ⟨⟨by simp [hnone], nofun, nofun, h.backlog⟩, nofun⟩
  · rename_i herr
    have hstatus := h.status_ne (by simpa using herr)
    exact ⟨⟨fun r hr => ⟨(h.failed r hr).1, rfl⟩, fun hwaiting => absurd hwaiting hstatus.1,
      fun hloading => absurd hloading hstatus.2, h.backlog⟩, nofun⟩

end PreviewSession

open PreviewSession in
/-- Every step of a panel leaves its session consistent. -/
theorem PanelStep.consistent {root : String} {p : Panel} {cause : PanelCause}
    {o o' : Option PreviewSession} {new : List PreviewEvent}
    (hstep : PanelStep root p cause o new o') (h : ∀ s, o = some s → s.Consistent) :
    ∀ s', o' = some s' → s'.Consistent := by
  intro s' ho'
  cases hstep with
  | idle => exact h s' ho'
  | opened link id uri =>
    cases ho'
    exact consistent_new link id uri
  | expected s id uri =>
    cases ho'
    exact (h s rfl).expect id uri
  | closed => cases ho'
  | failed s reason =>
    cases ho'
    exact ⟨coherent_failSurface reason (h s rfl).backlog, nofun⟩
  | acted s act =>
    cases ho'
    exact (h s rfl).afterAct act
  | shaken s =>
    cases ho'
    exact (h s rfl).noted.flush p
  | held s r model hlatest hok herr =>
    cases ho'
    exact ((h s rfl).holding herr _).flush p
  | dropped s r model hlatest hok herr =>
    cases ho'
    have hstatus := (h s rfl).status_ne (Option.isSome_iff_ne_none.1 herr)
    exact ⟨⟨(h s rfl).failed, fun hwaiting => absurd hwaiting hstatus.1,
      fun hloading => absurd hloading hstatus.2, (h s rfl).backlog⟩, (h s rfl).held⟩
  | refused s r e hlatest herror =>
    cases ho'
    exact (h s rfl).refused e.message

/-- Every session of a run is consistent. -/
theorem History.run_consistent (root : String) (ops : List ControllerOp) {p : Panel}
    {s : PreviewSession} (hs : (run root ops).controller.sessions.find? p = some s) :
    s.Consistent := by
  have hrun := foldl_panel_induction (p := p) (fun _ => True)
    (fun o _ => ∀ s, o = some s → s.Consistent)
    (fun _ _ _ _ _ _ hstep hP => hstep.consistent hP) ops trivial (fun _ => trivial)
    (fun _ _ => trivial) (bookkept_start root) (provenance_start root) (by simp [start])
  exact hrun s hs

/-! ## What a pump counts -/

/-- A session tells that it has sent its model exactly if it has posted one text. -/
theorem PreviewSession.length_sentTexts (s : PreviewSession) (p : Panel) :
    s.sentTexts.length = if (s.flush p).value.2 then 1 else 0 := by
  rw [flush_value, sentTexts]
  cases s.sendable? with
  | none => rfl
  | some m =>
    by_cases hopen : s.link.surface.isOpen = true
    · simp [hopen]
    · simp [hopen]

namespace Controller

variable {c c' c'' : Controller}

/-- From one state of the controller to another the surfaces of its panels gain texts. -/
structure Appends (c c' : Controller) (texts : Panel → List String) : Prop where
  keys : c'.sessions.keys = c.sessions.keys
  inbox : ∀ p, c'.inbox p = c.inbox p ++ texts p

/-- How many texts the surfaces of a controller's panels gain. -/
def gain (c : Controller) (texts : Panel → List String) : Nat :=
  (c.sessions.keys.map fun p => (texts p).length).sum

theorem Appends.refl (c : Controller) : c.Appends c fun _ => [] :=
  ⟨rfl, fun _ => (List.append_nil _).symm⟩

theorem Appends.trans {texts texts' : Panel → List String} (h : c.Appends c' texts)
    (h' : c'.Appends c'' texts') : c.Appends c'' fun p => texts p ++ texts' p :=
  ⟨h'.keys.trans h.keys, fun p => by rw [h'.inbox, h.inbox, List.append_assoc]⟩

theorem gain_nil (c : Controller) : c.gain (fun _ => []) = 0 := by
  simp [gain]

theorem Appends.gain_append {texts : Panel → List String} (h : c.Appends c' texts)
    (texts' : Panel → List String) :
    c.gain (fun p => texts p ++ texts' p) = c.gain texts + c'.gain texts' := by
  simp only [gain, h.keys, List.length_append, List.sum_map_add]

/-- The gain of a single panel. -/
theorem gain_of_ne {p : Panel} {s : PreviewSession} (hs : c.sessions.find? p = some s)
    {texts : Panel → List String} (h : ∀ q, q ≠ p → texts q = []) :
    c.gain texts = (texts p).length := by
  have hsorted : c.sessions.keys.Pairwise (· < ·) := List.pairwise_map.2 c.sessions.sorted
  have hnodup : c.sessions.keys.Nodup := hsorted.imp Nat.ne_of_lt
  have hcount : c.sessions.keys.count p = 1 :=
    List.count_eq_one_of_mem hnodup (SortedMap.mem_keys_iff.2 ⟨s, hs⟩)
  rw [gain, List.sum_map_eq_nsmul_single p _ (fun q hq _ => by rw [h q hq, List.length_nil]), hcount,
    one_nsmul]

/-- The texts that the handshakes post to a panel. -/
def shakenTexts (c : Controller) (p : Panel) : List String :=
  ((c.sessions.find? p).map (·.noted.sentTexts)).getD []

theorem handshakes_count (c : Controller) : c.handshakes.value.2 = c.gain c.shakenTexts := by
  have hentries : ∀ entries : List (Panel × PreviewSession),
      (entries.map fun e => (e.1, e.2.handshake e.1)).countP (·.2.value.2) =
        (entries.map fun e => e.2.noted.sentTexts.length).sum := by
    intro entries
    induction entries with
    | nil => rfl
    | cons e entries ih =>
      rw [List.map_cons, List.countP_cons, ih, List.map_cons, List.sum_cons,
        PreviewSession.length_sentTexts _ e.1, PreviewSession.handshake_value, Nat.add_comm]
  have hkeys : (c.sessions.keys.map fun p => (c.shakenTexts p).length) =
      c.sessions.entries.map fun e => e.2.noted.sentTexts.length := by
    rw [SortedMap.keys, List.map_map]
    apply List.map_congr_left
    intro e he
    have hs : c.sessions.find? e.1 = some e.2 := SortedMap.find?_eq_some_iff.2 he
    simp [shakenTexts, hs]
  rw [gain, hkeys]
  exact hentries c.sessions.entries

theorem appends_handshakes (hdrained : ∀ p s, c.sessions.find? p = some s → s.Drained) :
    c.Appends c.handshakes.value.1 c.shakenTexts := by
  refine ⟨SortedMap.keys_eq_of_isSome_find? ?_, ?_⟩
  · intro p
    rw [find?_handshakes, Option.isSome_map]
  · intro p
    cases hs : c.sessions.find? p with
    | none => simp [inbox, shakenTexts, find?_handshakes, hs]
    | some s =>
      have hunread := PreviewSession.unread_flush (PreviewSession.drained_noted (hdrained p s hs)) p
      rw [(PreviewSession.noted_of_drained (hdrained p s hs)).2] at hunread
      simp [inbox, shakenTexts, find?_handshakes, hs, hunread]

/-- A session that uses an answer tells that it has sent a model exactly if it has posted one text. -/
theorem exists_texts_applyResponse (root : String) (p : Panel) {s : PreviewSession} (r : Response)
    (hdrained : s.Drained) :
    ∃ texts, (applyResponse root p s r).value.1.link.surface.unread =
        s.link.surface.unread ++ texts ∧
      (if (applyResponse root p s r).value.2 then 1 else 0) = texts.length := by
  rcases applyResponse_cases root p s r with
    ⟨model, -, herr, hvalue⟩ | ⟨model, -, -, hvalue⟩ | ⟨e, -, hvalue⟩
  · have hholding : (s.holding (model.resolve root).value.model).Holds fun _ => True :=
      PreviewSession.holds_holding hdrained herr trivial
    rw [hvalue]
    refine ⟨_, ?_, (PreviewSession.length_sentTexts _ p).symm⟩
    rw [PreviewSession.unread_flush hholding.drained, PreviewSession.link_holding]
  · rw [hvalue]
    exact ⟨[], (List.append_nil _).symm, rfl⟩
  · rw [hvalue]
    refine ⟨[], ?_, rfl⟩
    rw [List.append_nil]
    unfold PreviewSession.setStatus
    split <;> rfl

theorem appends_handleResponse (hc : c.InStep)
    (hdrained : ∀ p s, c.sessions.find? p = some s → s.Drained) (r : Response) :
    ∃ texts, c.Appends (c.handleResponse r).value.1 texts ∧
      (c.handleResponse r).value.2 = c.gain texts := by
  rcases not_inFlight_or_accepts hc r with hnone | ⟨p, s, h⟩
  · rw [handleResponse_of_not_inFlight hnone]
    exact ⟨_, .refl c, c.gain_nil.symm⟩
  · obtain ⟨texts, hunread, hsent⟩ :=
      exists_texts_applyResponse c.root p r (hdrained p s h.session)
    have hfind (q : Panel) : (c.afterAnswer p s r).sessions.find? q =
        if q = p then some (applyResponse c.root p s r).value.1 else c.sessions.find? q :=
      SortedMap.find?_insert _ _ _ _
    rw [h.handleResponse_value]
    refine ⟨fun q => if q = p then texts else [], ⟨SortedMap.keys_eq_of_isSome_find? ?_, ?_⟩, ?_⟩
    · intro q
      rw [hfind]
      by_cases hq : q = p
      · simp [hq, h.session]
      · simp [hq]
    · intro q
      by_cases hq : q = p
      · simp [inbox, hfind, hq, h.session, hunread]
      · simp [inbox, hfind, hq]
    · rw [gain_of_ne h.session (by simp +contextual)]
      simpa [sentBy] using hsent

end Controller

namespace History

variable {root : String} {h : History}

/-- What the answers of a pump append is what they count. -/
theorem appends_handleResponses (hb : h.Bookkept) (hp : h.Provenance root)
    (responses : List Response) :
    ∃ texts, h.controller.Appends (h.controller.handleResponses responses).value.1 texts ∧
      (h.controller.handleResponses responses).value.2 = h.controller.gain texts := by
  induction responses generalizing h with
  | nil => exact ⟨_, .refl h.controller, h.controller.gain_nil.symm⟩
  | cons r rs ih =>
    obtain ⟨texts, hfirst, hcount⟩ := Controller.appends_handleResponse hb.inStep
      (fun p s hs => (hp.sessions p s hs).drained) r
    obtain ⟨texts', hrest, hcount'⟩ := ih (hb.answer r) (hp.answer hb r)
    refine ⟨_, hfirst.trans hrest, ?_⟩
    rw [hfirst.gain_append, ← hcount, Controller.handleResponses_cons_value]
    exact congrArg (_ + ·) hcount'

/-- What a pump appends is what it counts. -/
theorem appends_pump (hb : h.Bookkept) (hp : h.Provenance root) (responses : List Response) :
    ∃ texts, h.controller.Appends (h.controller.pump responses).value.1 texts ∧
      (h.controller.pump responses).value.2 = h.controller.gain texts := by
  have hshaken := Controller.appends_handshakes (c := h.controller)
    fun p s hs => (hp.sessions p s hs).drained
  obtain ⟨texts, hrest, hcount⟩ := appends_handleResponses hb.handshakes hp.handshakes responses
  refine ⟨_, hshaken.trans hrest, ?_⟩
  rw [hshaken.gain_append, ← Controller.handshakes_count]
  exact congrArg (_ + ·) hcount

/-- Between any two operations every session is consistent: (1) a model is held only for a surface
that has neither announced itself nor failed; (2) a failed surface shows its reason, and no model is
held for it; (3) a session that waits holds a model, and nothing is in flight for it; (4) for one that
is loading a request is in flight; (5) the bridge keeps messages back only once the surface has
announced itself and has gone.  So the bridge never holds a message for a surface to come, and pumping
it posts nothing.  The number that a pump returns is the number of texts that it appends to the
inboxes of all surfaces. -/
theorem sessions_consistent_and_pump_counts (root : String) (ops : List ControllerOp) :
    let c := (run root ops).controller
    (∀ p s, c.sessions.find? p = some s →
      (∀ m, s.pendingModel = some m → s.bridge.ready = false ∧ s.surfaceError = none) ∧
      (∀ reason, s.surfaceError = some reason →
        s.status = .unavailable reason ∧ s.pendingModel = none) ∧
      (s.status = .waiting →
        (∃ m, s.pendingModel = some m) ∧ ∀ id, c.inFlight.find? id ≠ some p) ∧
      (s.status = .loading → ∃ id, c.inFlight.find? id = some p) ∧
      (s.bridge.backlog ≠ [] → s.bridge.ready = true ∧ s.link.surface.isOpen = false) ∧
      (s.bridge.ready = false → s.bridge.backlog = []) ∧
      (s.bridge.pump s.link).value.link.surface = s.link.surface) ∧
    ∀ responses, ∃ texts : Panel → List String,
      (c.pump responses).value.1.sessions.keys = c.sessions.keys ∧
      (∀ p, (c.pump responses).value.1.inbox p = c.inbox p ++ texts p) ∧
      (c.pump responses).value.2 = (c.sessions.keys.map fun p => (texts p).length).sum := by
  intro c
  have hb : (run root ops).Bookkept := run_bookkept root ops
  constructor
  · intro p s hs
    have hconsistent : s.Consistent := run_consistent root ops hs
    have hwaits (id : Nat) : c.inFlight.find? id = some p ↔ s.latestRequest = some id := by
      rw [hb.inStep id p, Controller.waitsFor_eq_some_iff, hs]
      simp
    refine ⟨?_, hconsistent.failed, ?_, ?_, hconsistent.backlog, ?_, ?_⟩
    · intro m hm
      have hheld : s.pendingModel.isSome = true := by rw [hm, Option.isSome_some]
      exact ⟨hconsistent.held hheld, hconsistent.surfaceError_eq_none hheld⟩
    · intro hstatus
      obtain ⟨hheld, hnone⟩ := hconsistent.waiting hstatus
      refine ⟨Option.isSome_iff_exists.1 hheld, ?_⟩
      intro id hid
      rw [hwaits, hnone] at hid
      cases hid
    · intro hstatus
      obtain ⟨id, hid⟩ := Option.isSome_iff_exists.1 (hconsistent.loading hstatus)
      exact ⟨id, (hwaits id).2 hid⟩
    · intro hready
      by_contra hne
      have hready' := (hconsistent.backlog hne).1
      rw [hready] at hready'
      cases hready'
    · exact (HostBridge.handleAll_of_drained hconsistent.drained s.link.host.unread).2
  · intro responses
    obtain ⟨texts, happends, hcount⟩ := appends_pump hb (run_provenance root ops).2 responses
    exact ⟨texts, happends.keys, happends.inbox, hcount⟩

end History
end ModelPreview
