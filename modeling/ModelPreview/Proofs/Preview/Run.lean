import Mathlib
import ModelPreview.Preview.Controller
import ModelPreview.Proofs.Collections

/-!
# Runs of the preview controller

A run applies operations to a new controller in any order.  Between the operations the surfaces of
the panels act on their links as they like, and the backend may answer any request at any later time,
in any order and more than once; the answers polled by a pump are therefore a list without
conditions.  While the controller works, a history notes which requests it issues, which answers its
sessions accept and which texts it posts.

Main definitions:

- `ControllerOp`: one operation on the controller, or one act of a surface.
- `PreviewEvent`: what is noted about a run.
- `History.run`: the controller and the events of a run.

Main results:

- `History.step_pump_controller`: the history of a pump follows the pump of the controller.
- `PreviewEvent.latestIssued_append`: the latest request, event by event.
-/

namespace ModelPreview

/-! ## Sessions of panels -/

namespace Registry

variable {σ : Type}

theorem find?_update (r : Registry σ) (p q : Panel) (f : σ → σ) :
    (r.update p f).find? q = if q = p then (r.find? p).map f else r.find? q := by
  unfold update
  cases hs : r.find? p with
  | none =>
    by_cases hq : q = p
    · simp [hq, hs]
    · simp [hq]
  | some s => simp [SortedMap.find?_insert]

theorem find?_openOrReveal (r : Registry σ) (p q : Panel) (new : σ) :
    (r.openOrReveal p new).1.find? q = if q = p then some ((r.find? p).getD new) else r.find? q := by
  unfold openOrReveal
  cases hs : r.find? p with
  | none => simp [SortedMap.find?_insert]
  | some s =>
    by_cases hq : q = p
    · simp [hq, hs]
    · simp [hq]

end Registry

/-! ## What surfaces do -/

/-- What the owner of the far end can do to a link. -/
inductive SurfaceAct where
  /-- Post a text to the controller. -/
  | post (payload : String)
  /-- Take the oldest text. -/
  | take
  /-- Let the end go away. -/
  | leave

/-- The link after an act of the surface. -/
def Link.afterAct (l : Link) : SurfaceAct → Link
  | .post payload => (l.post .surface payload).getD l
  | .take => (l.receive .surface).2
  | .leave => l.close .surface

/-! ## Operations and events -/

/-- One operation on a controller, or one act of the surface of a panel. -/
inductive ControllerOp where
  /-- Open or reveal a preview; a new one gets the link. -/
  | openPreview (p : Panel) (link : Link) (uri : String)
  /-- Show another document. -/
  | documentChanged (p : Panel) (uri : String)
  /-- Close a panel. -/
  | closePanel (p : Panel)
  /-- Report that a surface cannot draw. -/
  | surfaceFailed (p : Panel) (reason : String)
  /-- Let the controller work, the backend having the given answers ready. -/
  | pump (responses : List Response)
  /-- Let the surface of a panel act. -/
  | surface (p : Panel) (act : SurfaceAct)

/-- What is noted about a run. -/
inductive PreviewEvent where
  /-- A request was issued for a panel. -/
  | issued (p : Panel) (id : Nat)
  /-- The session of a panel accepted an answer. -/
  | answered (p : Panel) (r : Response)
  /-- A text was posted to the surface of a panel. -/
  | posted (p : Panel) (payload : String)

namespace PreviewEvent

/-- The request that an event issues. -/
def issuedId? : PreviewEvent → Option Nat
  | issued _ id => some id
  | _ => none

/-- The request that an event issues for a panel. -/
def issuedFor? (p : Panel) : PreviewEvent → Option Nat
  | issued q id => if q = p then some id else none
  | _ => none

/-- The request whose answer an event accepts. -/
def answeredId? : PreviewEvent → Option Nat
  | answered _ r => some r.id
  | _ => none

/-- The request most recently issued for a panel. -/
def latestIssued (p : Panel) (es : List PreviewEvent) : Option Nat :=
  (es.filterMap (issuedFor? p)).getLast?

theorem issuedFor?_eq_some_iff {p : Panel} {e : PreviewEvent} {id : Nat} :
    e.issuedFor? p = some id ↔ e = issued p id := by
  cases e with
  | issued q id' =>
    by_cases hq : q = p
    · simp [issuedFor?, hq]
    · simp [issuedFor?, hq]
  | answered q r => simp [issuedFor?]
  | posted q payload => simp [issuedFor?]

theorem latestIssued_append (p : Panel) (es fs : List PreviewEvent) :
    latestIssued p (es ++ fs) = (latestIssued p fs).or (latestIssued p es) := by
  simp [latestIssued, List.getLast?_append]

/-- Events that issue nothing for a panel do not change its latest request. -/
theorem latestIssued_append_of_forall {p : Panel} {es fs : List PreviewEvent}
    (h : ∀ id, issued p id ∉ fs) : latestIssued p (es ++ fs) = latestIssued p es := by
  have hnone : fs.filterMap (issuedFor? p) = [] := by
    rw [List.filterMap_eq_nil_iff]
    intro e he
    cases hid : e.issuedFor? p with
    | none => rfl
    | some id => exact absurd (issuedFor?_eq_some_iff.1 hid ▸ he) (h id)
  simp [latestIssued, hnone]

@[simp]
theorem latestIssued_append_issued (p : Panel) (id : Nat) (es : List PreviewEvent) :
    latestIssued p (es ++ [issued p id]) = some id := by
  simp [latestIssued, issuedFor?]

/-- The latest request was issued. -/
theorem issued_mem_of_latestIssued {p : Panel} {es : List PreviewEvent} {id : Nat}
    (h : latestIssued p es = some id) : issued p id ∈ es := by
  obtain ⟨e, he, hid⟩ := List.mem_filterMap.1 (List.mem_of_getLast? h)
  exact issuedFor?_eq_some_iff.1 hid ▸ he

end PreviewEvent

namespace Controller

/-- The texts that wait at the surface of a panel. -/
def inbox (c : Controller) (p : Panel) : List String :=
  ((c.sessions.find? p).map (·.link.surface.unread)).getD []

/-- The texts a controller has posted on its way to another state: what the inbox of each surface
holds beyond what it held before. -/
def postedUntil (c c' : Controller) : List PreviewEvent :=
  c'.sessions.keys.flatMap fun p =>
    ((c'.inbox p).drop (c.inbox p).length).map (PreviewEvent.posted p)

/-- The session that accepts an answer: the one of the panel that the request belongs to, if it
still waits for this request. -/
def acceptance (c : Controller) (r : Response) : List PreviewEvent :=
  match c.inFlight.find? r.id with
  | none => []
  | some p =>
    match c.sessions.find? p with
    | none => []
    | some s => if s.latestRequest = some r.id then [.answered p r] else []

end Controller

/-! ## Histories -/

/-- A controller together with the events that led to it, oldest first. -/
structure History where
  /-- The controller. -/
  controller : Controller
  /-- The events. -/
  events : List PreviewEvent

namespace History

/-- The history of a new controller. -/
def start (root : String) : History := ⟨{ root := root }, []⟩

/-- Handle what the surfaces have posted. -/
def handshakes (h : History) : History :=
  let c := h.controller.handshakes.value.1
  ⟨c, h.events ++ h.controller.postedUntil c⟩

/-- Handle one answer. -/
def answer (h : History) (r : Response) : History :=
  let c := (h.controller.handleResponse r).value.1
  ⟨c, h.events ++ (h.controller.acceptance r ++ h.controller.postedUntil c)⟩

/-- One operation.  A pump handles the surfaces first and then one answer after the other. -/
def step (h : History) : ControllerOp → History
  | .openPreview p link uri =>
    let o := (h.controller.openPreview p link uri).value
    ⟨o.controller, h.events ++ [.issued p o.request.id]⟩
  | .documentChanged p uri =>
    let o := (h.controller.documentChanged p uri).value
    ⟨o.1, h.events ++ (o.2.map fun r => .issued p r.id).toList⟩
  | .closePanel p => ⟨(h.controller.closePanel p).value.1, h.events⟩
  | .surfaceFailed p reason => ⟨(h.controller.surfaceFailed p reason).value, h.events⟩
  | .pump responses => responses.foldl answer h.handshakes
  | .surface p act =>
    ⟨{ h.controller with sessions := h.controller.sessions.update p fun s =>
        { s with link := s.link.afterAct act } }, h.events⟩

/-- A run from a new controller. -/
def run (root : String) (ops : List ControllerOp) : History := ops.foldl step (start root)

theorem foldl_answer_controller (responses : List Response) (h : History) :
    (responses.foldl answer h).controller =
      (h.controller.handleResponses responses).value.1 := by
  induction responses generalizing h with
  | nil => rfl
  | cons r rs ih =>
    rw [List.foldl_cons, ih]
    rfl

/-- The history of a pump follows the pump of the controller. -/
theorem step_pump_controller (h : History) (responses : List Response) :
    (h.step (.pump responses)).controller = (h.controller.pump responses).value.1 := by
  rw [step, foldl_answer_controller]
  rfl

/-- What is kept by every allowed operation is kept by any number of them; a pump is taken apart into
its handshakes and its answers. -/
theorem foldl_step_induction {P : History → Prop} (allowed : ControllerOp → Prop)
    (hhandshakes : ∀ h, P h → P h.handshakes) (hanswer : ∀ h r, P h → P (h.answer r))
    (hstep : ∀ h op, (∀ responses, op ≠ .pump responses) → allowed op → P h → P (h.step op))
    (ops : List ControllerOp) (hops : ∀ op ∈ ops, allowed op) (h : History) (hP : P h) :
    P (ops.foldl step h) := by
  have hfold : ∀ (responses : List Response) (h : History), P h → P (responses.foldl answer h) := by
    intro responses
    induction responses with
    | nil => exact fun h hP => hP
    | cons r rs ih => exact fun h hP => ih (h.answer r) (hanswer h r hP)
  induction ops generalizing h with
  | nil => exact hP
  | cons op rest ih =>
    have hop : allowed op := hops op List.mem_cons_self
    refine ih (fun op' hop' => hops op' (List.mem_cons_of_mem op hop')) (h.step op) ?_
    cases op with
    | pump responses => exact hfold responses h.handshakes (hhandshakes h hP)
    | openPreview p link uri => exact hstep h _ (by simp) hop hP
    | documentChanged p uri => exact hstep h _ (by simp) hop hP
    | closePanel p => exact hstep h _ (by simp) hop hP
    | surfaceFailed p reason => exact hstep h _ (by simp) hop hP
    | surface p act => exact hstep h _ (by simp) hop hP

/-- What holds at the start and is kept by every operation holds after every run. -/
theorem run_induction {root : String} {P : History → Prop} (hstart : P (start root))
    (hhandshakes : ∀ h, P h → P h.handshakes) (hanswer : ∀ h r, P h → P (h.answer r))
    (hstep : ∀ h op, (∀ responses, op ≠ .pump responses) → P h → P (h.step op))
    (ops : List ControllerOp) : P (run root ops) :=
  foldl_step_induction (fun _ => True) hhandshakes hanswer
    (fun h op hop _ hP => hstep h op hop hP) ops (fun _ _ => trivial) (start root) hstart

end History
end ModelPreview
