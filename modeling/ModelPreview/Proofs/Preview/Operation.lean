import Mathlib
import ModelPreview.Proofs.Preview.Bookkeeping

/-!
# Operations as their panel sees them

An operation other than a pump is about one panel: it changes the session of that panel, possibly
issues a request for it, and leaves the other panels alone.  What it does there is described once, by
functions of the session of the panel; whatever else is said about single operations follows.

Main definitions:

- `ControllerOp.panel?`: the panel that an operation is about.
- `ControllerOp.sessionAfter` and `ControllerOp.issues`: what it does there.

Main results:

- `History.find?_step`: the sessions after an operation.
- `History.events_step` and `History.nextRequest_step`: the requests it issues.
-/

namespace ModelPreview

open PreviewEvent

/-! ## The panel of an operation -/

namespace ControllerOp

/-- The panel that an operation is about; a pump is about all of them. -/
def panel? : ControllerOp → Option Panel
  | openPreview p _ _ => some p
  | documentChanged p _ => some p
  | closePanel p => some p
  | surfaceFailed p _ => some p
  | pump _ => none
  | surface p _ => some p

/-- What an operation makes of the session of its panel; `id` is the number of the next request. -/
def sessionAfter (op : ControllerOp) (id : Nat) (o : Option PreviewSession) :
    Option PreviewSession :=
  match op with
  | openPreview _ link uri => some ((o.getD { link := link }).expect id uri)
  | documentChanged _ uri => o.map (·.expect id uri)
  | closePanel _ => none
  | surfaceFailed _ reason => o.map (·.failSurface reason)
  | pump _ => o
  | surface _ act => o.map fun s => { s with link := s.link.afterAct act }

/-- Whether an operation issues a request, given the session of its panel. -/
def issues (op : ControllerOp) (o : Option PreviewSession) : Bool :=
  match op with
  | openPreview _ _ _ => true
  | documentChanged _ _ => o.isSome
  | _ => false

theorem issues_map (op : ControllerOp) (o : Option PreviewSession)
    (f : PreviewSession → PreviewSession) : op.issues (o.map f) = op.issues o := by
  cases op with
  | documentChanged p uri => cases o <;> rfl
  | _ => rfl

variable {op : ControllerOp} {p : Panel}

theorem ne_pump_of_panel? (hop : op.panel? = some p) (responses : List Response) :
    op ≠ .pump responses := by
  rintro rfl
  cases hop

theorem exists_pump_of_panel? (hop : op.panel? = none) : ∃ responses, op = .pump responses := by
  cases op with
  | pump responses => exact ⟨responses, rfl⟩
  | _ => cases hop

theorem exists_panel?_of_ne_pump (hop : ∀ responses, op ≠ .pump responses) :
    ∃ p, op.panel? = some p := by
  cases hp : op.panel? with
  | none =>
    obtain ⟨responses, heq⟩ := exists_pump_of_panel? hp
    exact absurd heq (hop responses)
  | some p => exact ⟨p, rfl⟩

end ControllerOp

namespace Controller

/-- A change of the document is a request if the panel is open, and nothing otherwise. -/
theorem documentChanged_value (c : Controller) (p : Panel) (uri : String) :
    (c.documentChanged p uri).value =
      if (c.sessions.find? p).isSome then ((c.request p uri).1, some (c.request p uri).2)
      else (c, none) := by
  have hcontains : c.sessions.contains p = (c.sessions.find? p).isSome := rfl
  rw [documentChanged, hcontains]
  split <;> rfl

theorem find?_surfaceFailed (c : Controller) (p q : Panel) (reason : String) :
    (c.surfaceFailed p reason).value.sessions.find? q =
      if q = p then (c.sessions.find? p).map (·.failSurface reason) else c.sessions.find? q := by
  unfold surfaceFailed
  split
  · exact Registry.find?_update c.sessions p q _
  · rename_i hcontains
    have hnone : c.sessions.find? p = none := by simpa [SortedMap.contains] using hcontains
    by_cases hq : q = p
    · simp [hq, hnone]
    · simp [hq]

end Controller

/-! ## The history after an operation -/

namespace History

variable {h : History} {op : ControllerOp} {p : Panel}

/-- An operation changes the session of its panel and no other one. -/
theorem find?_step (h : History) (hop : op.panel? = some p) (q : Panel) :
    (h.step op).controller.sessions.find? q =
      if q = p then op.sessionAfter h.controller.nextRequest (h.controller.sessions.find? p)
      else h.controller.sessions.find? q := by
  cases op with
  | openPreview p' link uri =>
    cases hop
    rw [step, Controller.openPreview_controller, Controller.find?_request]
    by_cases hq : q = p
    · simp [hq, Registry.find?_openOrReveal, ControllerOp.sessionAfter]
    · simp [hq, Registry.find?_openOrReveal]
  | documentChanged p' uri =>
    cases hop
    rw [step, Controller.documentChanged_value]
    cases hs : h.controller.sessions.find? p with
    | none =>
      by_cases hq : q = p
      · simp [hq, hs, ControllerOp.sessionAfter]
      · simp [hq]
    | some s => simp [Controller.find?_request, hs, ControllerOp.sessionAfter]
  | closePanel p' =>
    cases hop
    exact Controller.find?_closePanel h.controller p q
  | surfaceFailed p' reason =>
    cases hop
    exact Controller.find?_surfaceFailed h.controller p q reason
  | pump responses => cases hop
  | surface p' act =>
    cases hop
    exact Registry.find?_update h.controller.sessions p q _

/-- The requests that an operation issues. -/
theorem events_step (h : History) (hop : op.panel? = some p) :
    (h.step op).events = h.events ++
      if op.issues (h.controller.sessions.find? p) then [issued p h.controller.nextRequest] else [] := by
  cases op with
  | openPreview p' link uri =>
    cases hop
    simp [step, Controller.openPreview_request, ControllerOp.issues]
  | documentChanged p' uri =>
    cases hop
    rw [step, Controller.documentChanged_value, ControllerOp.issues]
    split <;> simp [Controller.request]
  | closePanel p' => exact (List.append_nil _).symm
  | surfaceFailed p' reason => exact (List.append_nil _).symm
  | pump responses => cases hop
  | surface p' act => exact (List.append_nil _).symm

theorem nextRequest_step (h : History) (hop : op.panel? = some p) :
    (h.step op).controller.nextRequest = h.controller.nextRequest +
      if op.issues (h.controller.sessions.find? p) then 1 else 0 := by
  cases op with
  | openPreview p' link uri =>
    rw [step, Controller.openPreview_controller]
    rfl
  | documentChanged p' uri =>
    cases hop
    rw [step, Controller.documentChanged_value, ControllerOp.issues]
    split <;> simp [Controller.request]
  | closePanel p' => exact Controller.nextRequest_closePanel h.controller p'
  | surfaceFailed p' reason =>
    exact (Controller.sameRequests_surfaceFailed h.controller p' reason).nextRequest
  | pump responses => cases hop
  | surface p' act => rfl

theorem step_root (h : History) (op : ControllerOp) (hop : ∀ responses, op ≠ .pump responses) :
    (h.step op).controller.root = h.controller.root := by
  cases op with
  | openPreview p link uri =>
    simp only [step, Controller.openPreview_controller]
    rfl
  | documentChanged p uri =>
    simp only [step, Controller.documentChanged]
    split <;> rfl
  | closePanel p =>
    simp only [step, Controller.closePanel, Registry.dispose]
    split <;> rfl
  | surfaceFailed p reason =>
    simp only [step, Controller.surfaceFailed]
    split <;> rfl
  | pump responses => exact absurd rfl (hop responses)
  | surface p act => rfl

end History
end ModelPreview
