import Mathlib
import ModelPreview.Proofs.Preview.Provenance

/-!
# One panel at a time

A run looked at from one panel is a sequence of small steps: the session is opened, asked for a
document, closed, disturbed by its surface, or it takes part in a pump by its handshake or by an
answer.  `PanelStep` lists these steps once, with the operation that causes them and the events of the
panel that go with them; what holds along all of them holds for the panel in every run.

Main definitions:

- `PreviewEvent.eventsOf` and `PreviewEvent.postedTo`: the part of a panel in a history.
- `PanelStep`: what one step of a run can do to a panel.

Main results:

- `History.panelStep_handshakes`, `History.panelStep_answer` and `History.panelStep_step`: the steps
  listed are all there are.
- `History.foldl_panel_induction`: what all steps of a panel preserve holds along a run.
-/

namespace ModelPreview

namespace PreviewEvent

/-- The panel that an event belongs to. -/
def panel : PreviewEvent → Panel
  | issued p _ => p
  | answered p _ => p
  | posted p _ => p

/-- The events of a panel. -/
def eventsOf (p : Panel) (es : List PreviewEvent) : List PreviewEvent := es.filter (·.panel = p)

/-- The text that an event posts to a panel. -/
def postedTo? (p : Panel) : PreviewEvent → Option String
  | posted q payload => if q = p then some payload else none
  | _ => none

/-- The texts posted to a panel, oldest first. -/
def postedTo (p : Panel) (es : List PreviewEvent) : List String := es.filterMap (postedTo? p)

variable {p q : Panel}

@[simp]
theorem eventsOf_append (p : Panel) (es fs : List PreviewEvent) :
    eventsOf p (es ++ fs) = eventsOf p es ++ eventsOf p fs :=
  List.filter_append es fs

theorem eventsOf_eq_nil {es : List PreviewEvent} (h : ∀ e ∈ es, e.panel ≠ p) :
    eventsOf p es = [] := by
  apply List.filter_eq_nil_iff.2
  intro e he
  simpa using h e he

@[simp]
theorem eventsOf_map_posted_self (p : Panel) (texts : List String) :
    eventsOf p (texts.map (posted p)) = texts.map (posted p) := by
  apply List.filter_eq_self.2
  intro e he
  obtain ⟨text, -, rfl⟩ := List.mem_map.1 he
  exact decide_eq_true rfl

theorem eventsOf_map_posted_of_ne (h : q ≠ p) (texts : List String) :
    eventsOf p (texts.map (posted q)) = [] := by
  apply eventsOf_eq_nil
  intro e he
  obtain ⟨text, -, rfl⟩ := List.mem_map.1 he
  exact h

@[simp]
theorem postedTo_append (p : Panel) (es fs : List PreviewEvent) :
    postedTo p (es ++ fs) = postedTo p es ++ postedTo p fs :=
  List.filterMap_append

/-- What is posted to a panel is found among its own events. -/
theorem postedTo_eventsOf (p : Panel) (es : List PreviewEvent) :
    postedTo p (eventsOf p es) = postedTo p es := by
  unfold postedTo eventsOf
  rw [List.filterMap_filter]
  congr 1
  funext e
  cases e with
  | issued q id => simp [postedTo?]
  | answered q r => simp [postedTo?]
  | posted q payload => by_cases hq : q = p <;> simp [postedTo?, panel, hq]

@[simp]
theorem postedTo_map_posted (p : Panel) (texts : List String) :
    postedTo p (texts.map (posted p)) = texts := by
  induction texts with
  | nil => rfl
  | cons text texts ih =>
    have hhead : postedTo? p (posted p text) = some text := if_pos rfl
    rw [List.map_cons, postedTo, List.filterMap_cons_some hhead]
    exact congrArg (text :: ·) ih

end PreviewEvent

open PreviewEvent

/-! ## The events of a panel in a step -/

namespace Controller

/-- Of the texts posted between two states those of one panel are the ones that its inbox has
gained. -/
theorem eventsOf_postedUntil (c c' : Controller) (p : Panel) :
    eventsOf p (c.postedUntil c') = ((c'.inbox p).drop (c.inbox p).length).map (posted p) := by
  let gained := fun q => ((c'.inbox q).drop (c.inbox q).length).map (posted q)
  have hkeys : ∀ keys : List Panel, keys.Nodup →
      eventsOf p (keys.flatMap gained) = if p ∈ keys then gained p else [] := by
    intro keys hnodup
    induction keys with
    | nil => rfl
    | cons q keys ih =>
      rw [List.nodup_cons] at hnodup
      rw [List.flatMap_cons, eventsOf_append, ih hnodup.2]
      by_cases hq : q = p
      · subst hq
        rw [if_neg hnodup.1, List.append_nil, if_pos List.mem_cons_self]
        exact eventsOf_map_posted_self q _
      · rw [eventsOf_map_posted_of_ne hq, List.nil_append]
        simp [Ne.symm hq]
  have hsorted : c'.sessions.keys.Pairwise (· < ·) := List.pairwise_map.2 c'.sessions.sorted
  rw [postedUntil, hkeys _ (hsorted.imp Nat.ne_of_lt)]
  split
  · rfl
  · rename_i hnone
    -- A panel without a session has gained nothing.
    have hfind : c'.sessions.find? p = none := by
      rw [Option.eq_none_iff_forall_ne_some]
      intro s hs
      exact hnone (SortedMap.mem_keys_iff.2 ⟨s, hs⟩)
    simp [inbox, hfind]

/-- What a panel posts when the texts at its surface grow. -/
theorem eventsOf_postedUntil_of_unread {c c' : Controller} {p : Panel} {s s' : PreviewSession}
    {texts : List String} (hs : c.sessions.find? p = some s) (hs' : c'.sessions.find? p = some s')
    (hunread : s'.link.surface.unread = s.link.surface.unread ++ texts) :
    eventsOf p (c.postedUntil c') = texts.map (posted p) := by
  rw [eventsOf_postedUntil]
  simp [inbox, hs, hs', hunread]

/-- A panel whose session stays posts nothing. -/
theorem eventsOf_postedUntil_of_find?_eq {c c' : Controller} {p : Panel}
    (h : c'.sessions.find? p = c.sessions.find? p) : eventsOf p (c.postedUntil c') = [] := by
  rw [eventsOf_postedUntil]
  simp [inbox, h]

end Controller

/-! ## Steps -/

/-- What can make a panel take a step: an operation, or a part of a pump. -/
inductive PanelCause where
  /-- An operation other than a pump. -/
  | operation (op : ControllerOp)
  /-- The handshakes of a pump. -/
  | handshake
  /-- An answer that a pump handles. -/
  | answer (r : Response)

/-- What one step of a run can do to a panel: what causes it, the session before, the events of the
panel, and the session after. -/
inductive PanelStep (root : String) (p : Panel) :
    PanelCause → Option PreviewSession → List PreviewEvent → Option PreviewSession → Prop where
  /-- The step does not concern the panel. -/
  | idle (cause : PanelCause) (o : Option PreviewSession) : PanelStep root p cause o [] o
  /-- A new session waits for its first request. -/
  | opened (link : Link) (id : Nat) (uri : String) :
    PanelStep root p (.operation (.openPreview p link uri)) none [.issued p id]
      (some (PreviewSession.expect { link := link } id uri))
  /-- The session waits for another request. -/
  | expected {op : ControllerOp} (s : PreviewSession) (id : Nat) (uri : String)
      (hop : (∃ link, op = .openPreview p link uri) ∨ op = .documentChanged p uri) :
    PanelStep root p (.operation op) (some s) [.issued p id] (some (s.expect id uri))
  /-- The panel is closed. -/
  | closed (o : Option PreviewSession) : PanelStep root p (.operation (.closePanel p)) o [] none
  /-- The surface is said to have failed. -/
  | failed (s : PreviewSession) (reason : String) :
    PanelStep root p (.operation (.surfaceFailed p reason)) (some s) [] (some (s.failSurface reason))
  /-- The surface acts. -/
  | acted (s : PreviewSession) (act : SurfaceAct) :
    PanelStep root p (.operation (.surface p act)) (some s) []
      (some { s with link := s.link.afterAct act })
  /-- The session takes note of what its surface has posted and sends what it holds. -/
  | shaken (s : PreviewSession) (hdrained : s.Drained) :
    PanelStep root p .handshake (some s) (s.noted.sentTexts.map (.posted p))
      (some (s.noted.flush p).value.1)
  /-- The session holds the model of an answer and sends it if it can. -/
  | held (s : PreviewSession) (r : Response) (model : Model) (hlatest : s.latestRequest = some r.id)
      (hok : r.result = .ok model) (herr : s.surfaceError = none) :
    PanelStep root p (.answer r) (some s)
      (.answered p r :: (s.holding (model.resolve root).value.model).sentTexts.map (.posted p))
      (some ((s.holding (model.resolve root).value.model).flush p).value.1)
  /-- The surface of the session that waits for the answer has failed. -/
  | dropped (s : PreviewSession) (r : Response) (model : Model)
      (hlatest : s.latestRequest = some r.id) (hok : r.result = .ok model)
      (herr : s.surfaceError.isSome = true) :
    PanelStep root p (.answer r) (some s) [.answered p r] (some { s with latestRequest := none })
  /-- The answer is an error. -/
  | refused (s : PreviewSession) (r : Response) (e : BackendError)
      (hlatest : s.latestRequest = some r.id) (herror : r.result = .error e) :
    PanelStep root p (.answer r) (some s) [.answered p r]
      (some ({ s with latestRequest := none, pendingModel := none }.setStatus
        (.unavailable e.message)))

namespace History

/-- Between two histories a panel makes one step. -/
def PanelSteps (root : String) (p : Panel) (cause : PanelCause) (h h' : History) : Prop :=
  ∃ new, eventsOf p h'.events = eventsOf p h.events ++ new ∧
    PanelStep root p cause (h.controller.sessions.find? p) new (h'.controller.sessions.find? p)

variable {root : String} {h h' : History} {p : Panel} {cause : PanelCause}

theorem panelSteps_idle (hfind : h'.controller.sessions.find? p = h.controller.sessions.find? p)
    (hevents : eventsOf p h'.events = eventsOf p h.events) : PanelSteps root p cause h h' := by
  refine ⟨[], ?_, ?_⟩
  · rw [hevents, List.append_nil]
  · rw [hfind]
    exact .idle cause _

/-- The handshake of a panel: its session afterwards and what it has posted. -/
theorem handshakes_of_find? {s : PreviewSession} (hs : h.controller.sessions.find? p = some s)
    (hdrained : s.Drained) :
    h.handshakes.controller.sessions.find? p = some (s.noted.flush p).value.1 ∧
      eventsOf p h.handshakes.events =
        eventsOf p h.events ++ s.noted.sentTexts.map (posted p) := by
  have hfind : h.handshakes.controller.sessions.find? p = some (s.noted.flush p).value.1 := by
    rw [handshakes, Controller.find?_handshakes, hs]
    rfl
  refine ⟨hfind, ?_⟩
  have hunread := PreviewSession.unread_flush (PreviewSession.drained_noted hdrained) p
  rw [(PreviewSession.noted_of_drained hdrained).2] at hunread
  have hevents : h.handshakes.events =
      h.events ++ h.controller.postedUntil h.handshakes.controller := rfl
  rw [hevents, eventsOf_append, Controller.eventsOf_postedUntil_of_unread hs hfind hunread]

theorem panelStep_handshakes (hp : h.Provenance root) (p : Panel) :
    PanelSteps root p .handshake h h.handshakes := by
  have hfind := Controller.find?_handshakes h.controller p
  cases hs : h.controller.sessions.find? p with
  | none =>
    have hsame : h.controller.handshakes.value.1.sessions.find? p =
        h.controller.sessions.find? p := by
      rw [hfind, hs]
      rfl
    apply panelSteps_idle hsame
    rw [handshakes, eventsOf_append, Controller.eventsOf_postedUntil_of_find?_eq hsame,
      List.append_nil]
  | some s =>
    have hdrained := (hp.sessions p s hs).drained
    obtain ⟨hafter, hevents⟩ := handshakes_of_find? hs hdrained
    refine ⟨_, hevents, ?_⟩
    rw [hs, hafter]
    exact .shaken s hdrained

/-- The step of the session that accepts an answer. -/
theorem panelStep_applyResponse (root : String) {s : PreviewSession} {r : Response}
    (hdrained : s.Drained) (hlatest : s.latestRequest = some r.id) :
    ∃ texts, (Controller.applyResponse root p s r).value.1.link.surface.unread =
        s.link.surface.unread ++ texts ∧
      PanelStep root p (.answer r) (some s) (.answered p r :: texts.map (.posted p))
        (some (Controller.applyResponse root p s r).value.1) := by
  rcases Controller.applyResponse_cases root p s r with
    ⟨model, hok, herr, hvalue⟩ | ⟨model, hok, herr, hvalue⟩ | ⟨e, herror, hvalue⟩
  · rw [hvalue]
    refine ⟨_, ?_, .held s r model hlatest hok herr⟩
    have hholding : (s.holding (model.resolve root).value.model).Holds fun _ => True :=
      PreviewSession.holds_holding hdrained herr trivial
    rw [PreviewSession.unread_flush hholding.drained, PreviewSession.link_holding]
  · rw [hvalue]
    exact ⟨[], (List.append_nil _).symm, .dropped s r model hlatest hok herr⟩
  · rw [hvalue]
    refine ⟨[], ?_, .refused s r e hlatest herror⟩
    rw [List.append_nil]
    unfold PreviewSession.setStatus
    split <;> rfl

theorem panelStep_answer (hb : h.Bookkept) (hp : h.Provenance root) (r : Response) (p : Panel) :
    PanelSteps root p (.answer r) h (h.answer r) := by
  rcases Controller.handleResponse_eq_of_inStep hb.inStep r with
    ⟨hwait, -, -, -⟩ | ⟨q, s, -, hs, hlatest, hvalue, haccept⟩
  · rw [answer_of_not_waited hb.inStep hwait]
    exact panelSteps_idle rfl rfl
  · have hafter : (h.answer r).controller = h.controller.afterAnswer q s r := hvalue
    have hevents : (h.answer r).events = h.events ++
        ([answered q r] ++ h.controller.postedUntil (h.answer r).controller) := by
      rw [← haccept]
      rfl
    by_cases hq : q = p
    · subst hq
      obtain ⟨texts, hunread, hstep⟩ :=
        panelStep_applyResponse root (hp.sessions q s hs).drained hlatest
      have hs' : (h.answer r).controller.sessions.find? q =
          some (Controller.applyResponse root q s r).value.1 := by
        rw [hafter, Controller.afterAnswer, SortedMap.find?_insert_self, hp.root_eq]
      refine ⟨answered q r :: texts.map (posted q), ?_, ?_⟩
      · rw [hevents, eventsOf_append, eventsOf_append,
          Controller.eventsOf_postedUntil_of_unread hs hs' hunread]
        simp [eventsOf, panel]
      · rw [hs, hs']
        exact hstep
    · have hsame : (h.answer r).controller.sessions.find? p = h.controller.sessions.find? p := by
        rw [hafter, Controller.afterAnswer, SortedMap.find?_insert_of_ne _ _ (Ne.symm hq)]
      apply panelSteps_idle hsame
      rw [hevents, eventsOf_append, eventsOf_append,
        Controller.eventsOf_postedUntil_of_find?_eq hsame]
      simp [eventsOf, panel, hq]

/-- What an operation does to the session of its panel is a step of this panel. -/
theorem panelStep_sessionAfter {op : ControllerOp} (hop : op.panel? = some p) (id : Nat)
    (o : Option PreviewSession) :
    PanelStep root p (.operation op) o (if op.issues o then [issued p id] else [])
      (op.sessionAfter id o) := by
  cases op with
  | openPreview q link uri =>
    cases hop
    cases o with
    | none => exact .opened link id uri
    | some s => exact .expected s id uri (Or.inl ⟨link, rfl⟩)
  | documentChanged q uri =>
    cases hop
    cases o with
    | none => exact .idle _ none
    | some s => exact .expected s id uri (Or.inr rfl)
  | closePanel q =>
    cases hop
    exact .closed o
  | surfaceFailed q reason =>
    cases hop
    cases o with
    | none => exact .idle _ none
    | some s => exact .failed s reason
  | pump responses => cases hop
  | surface q act =>
    cases hop
    cases o with
    | none => exact .idle _ none
    | some s => exact .acted s act

theorem panelStep_step (h : History) (op : ControllerOp) (hop : ∀ responses, op ≠ .pump responses)
    (p : Panel) : PanelSteps root p (.operation op) h (h.step op) := by
  obtain ⟨q, hq⟩ := ControllerOp.exists_panel?_of_ne_pump hop
  have hfind := find?_step h hq p
  have hevents := events_step h hq
  by_cases hp : p = q
  · subst hp
    rw [if_pos rfl] at hfind
    refine ⟨_, ?_, hfind ▸ panelStep_sessionAfter hq h.controller.nextRequest _⟩
    rw [hevents, eventsOf_append]
    congr 1
    split
    · simp [eventsOf, panel]
    · rfl
  · rw [if_neg hp] at hfind
    apply panelSteps_idle hfind
    rw [hevents, eventsOf_append]
    split
    · simp [eventsOf, panel, Ne.symm hp]
    · exact List.append_nil _

/-! ## Runs -/

section Induction

variable (allowed : PanelCause → Prop) (P : Option PreviewSession → List PreviewEvent → Prop)
  (hstep : ∀ cause o new o' es, allowed cause → PanelStep root p cause o new o' → P o es →
    P o' (es ++ new))

include hstep

theorem PanelSteps.preserves (hcause : allowed cause) (hsteps : PanelSteps root p cause h h')
    (hP : P (h.controller.sessions.find? p) (eventsOf p h.events)) :
    P (h'.controller.sessions.find? p) (eventsOf p h'.events) := by
  obtain ⟨new, hevents, hpanel⟩ := hsteps
  rw [hevents]
  exact hstep cause _ new _ _ hcause hpanel hP

/-- What the answers of a pump preserve for a panel is preserved by any number of them. -/
theorem foldl_answer_panel_induction (responses : List Response)
    (hanswer : ∀ r, allowed (.answer r)) (hb : h.Bookkept) (hp : h.Provenance root)
    (hP : P (h.controller.sessions.find? p) (eventsOf p h.events)) :
    P ((responses.foldl answer h).controller.sessions.find? p)
      (eventsOf p (responses.foldl answer h).events) := by
  induction responses generalizing h with
  | nil => exact hP
  | cons r rs ih =>
    apply ih (hb.answer r) (hp.answer hb r)
    exact (panelStep_answer hb hp r p).preserves allowed P hstep (hanswer r) hP

/-- What all steps preserve that a panel takes for allowed causes holds along a run of operations
that cause nothing else. -/
theorem foldl_panel_induction (ops : List ControllerOp) (hhandshake : allowed .handshake)
    (hanswer : ∀ r, allowed (.answer r)) (hops : ∀ op ∈ ops, allowed (.operation op))
    (hb : h.Bookkept) (hp : h.Provenance root)
    (hP : P (h.controller.sessions.find? p) (eventsOf p h.events)) :
    P ((ops.foldl step h).controller.sessions.find? p)
      (eventsOf p (ops.foldl step h).events) := by
  have hrun := foldl_step_induction
    (P := fun h => (h.Bookkept ∧ h.Provenance root) ∧
      P (h.controller.sessions.find? p) (eventsOf p h.events)) (fun op => allowed (.operation op))
    (fun h hh => ⟨⟨hh.1.1.handshakes, hh.1.2.handshakes⟩,
      (panelStep_handshakes hh.1.2 p).preserves allowed P hstep hhandshake hh.2⟩)
    (fun h r hh => ⟨⟨hh.1.1.answer r, hh.1.2.answer hh.1.1 r⟩,
      (panelStep_answer hh.1.1 hh.1.2 r p).preserves allowed P hstep (hanswer r) hh.2⟩)
    (fun h op hop hallowed hh => ⟨⟨hh.1.1.step op hop, hh.1.2.step op hop⟩,
      (panelStep_step h op hop p).preserves allowed P hstep hallowed hh.2⟩)
    ops hops h ⟨⟨hb, hp⟩, hP⟩
  exact hrun.2

end Induction

end History
end ModelPreview
