import Mathlib
import ModelPreview.Proofs.Preview.Bookkeeping

/-!
# The order of answers

A panel waits for one request only, so answers to different requests that are accepted are used by the
sessions of different panels.  Two of them can therefore be exchanged, and with them any reordering
of the answers that one pump handles leads to the same controller and the same count.

Main results:

- `Controller.handleResponse_comm`: two answers in a row can be exchanged.
- `Controller.handleResponses_perm`: the answers of a pump can come in any order.
- `History.pump_value_perm`: the same for the states of all runs.
-/

namespace ModelPreview

namespace Controller

/-- The session of a panel waits for an answer. -/
structure Accepts (c : Controller) (p : Panel) (s : PreviewSession) (r : Response) : Prop where
  inFlight : c.inFlight.find? r.id = some p
  session : c.sessions.find? p = some s
  latest : s.latestRequest = some r.id

variable {c : Controller} {p q : Panel} {s t : PreviewSession} {a b r : Response}

theorem not_inFlight_or_accepts (hc : c.InStep) (r : Response) :
    c.inFlight.find? r.id = none ∨ ∃ p s, c.Accepts p s r := by
  rcases handleResponse_eq_of_inStep hc r with ⟨-, hnone, -, -⟩ | ⟨p, s, hp, hs, hlatest, -, -⟩
  · exact Or.inl hnone
  · exact Or.inr ⟨p, s, hp, hs, hlatest⟩

/-- The number of models sent when a session uses an answer. -/
def sentBy (c : Controller) (p : Panel) (s : PreviewSession) (r : Response) : Nat :=
  if (applyResponse c.root p s r).value.2 then 1 else 0

theorem Accepts.handleResponse_value (h : c.Accepts p s r) :
    (c.handleResponse r).value = (c.afterAnswer p s r, c.sentBy p s r) := by
  simp [handleResponse, h.inFlight, h.session, h.latest, afterAnswer, sentBy]

/-- Answers to different requests belong to different panels. -/
theorem Accepts.panel_ne (ha : c.Accepts p s a) (hb : c.Accepts q t b) (hid : a.id ≠ b.id) :
    p ≠ q := by
  intro hpq
  subst hpq
  apply hid
  have hst : some s = some t := ha.session.symm.trans hb.session
  cases hst
  exact Option.some.inj (ha.latest.symm.trans hb.latest)

/-- An answer that is used leaves the sessions of the other panels waiting. -/
theorem Accepts.afterAnswer (ha : c.Accepts p s a) (hb : c.Accepts q t b) (hid : a.id ≠ b.id) :
    (c.afterAnswer p s a).Accepts q t b where
  inFlight := by
    rw [Controller.afterAnswer, SortedMap.find?_erase, if_neg hid.symm, hb.inFlight]
  session := by
    rw [Controller.afterAnswer, SortedMap.find?_insert, if_neg (ha.panel_ne hb hid).symm, hb.session]
  latest := hb.latest

theorem not_inFlight_afterAnswer (p : Panel) (s : PreviewSession) (a : Response)
    (hb : c.inFlight.find? b.id = none) :
    (c.afterAnswer p s a).inFlight.find? b.id = none := by
  rw [Controller.afterAnswer, SortedMap.find?_erase, hb]
  split <;> rfl

theorem afterAnswer_comm (hpq : p ≠ q) :
    (c.afterAnswer p s a).afterAnswer q t b = (c.afterAnswer q t b).afterAnswer p s a := by
  unfold Controller.afterAnswer
  dsimp only
  rw [SortedMap.erase_comm, SortedMap.insert_comm _ _ _ hpq]

theorem inStep_handleResponse (hc : c.InStep) (r : Response) :
    (c.handleResponse r).value.1.InStep := by
  rcases not_inFlight_or_accepts hc r with hnone | ⟨p, s, h⟩
  · rw [handleResponse_of_not_inFlight hnone]
    exact hc
  · rw [h.handleResponse_value]
    exact inStep_afterAnswer hc h.inFlight

/-- Two answers to different requests can be exchanged. -/
theorem handleResponse_comm (hc : c.InStep) (hid : a.id ≠ b.id) :
    let first := (c.handleResponse a).value
    let first' := (c.handleResponse b).value
    let second := (first.1.handleResponse b).value
    let second' := (first'.1.handleResponse a).value
    second.1 = second'.1 ∧ first.2 + second.2 = first'.2 + second'.2 := by
  intro first first' second second'
  rcases not_inFlight_or_accepts hc a with ha | ⟨p, s, ha⟩
  · -- Nobody waits for the first answer, also after the second one.
    have hfirst : first = (c, 0) := handleResponse_of_not_inFlight ha
    have hsecond' : second' = (first'.1, 0) := by
      apply handleResponse_of_not_inFlight
      rcases not_inFlight_or_accepts hc b with hb | ⟨q, t, hb⟩
      · simp only [first', handleResponse_of_not_inFlight hb, ha]
      · simp only [first', hb.handleResponse_value, not_inFlight_afterAnswer q t b ha]
    simp only [second, hfirst, hsecond']
    exact ⟨rfl, Nat.add_comm _ _⟩
  · rcases not_inFlight_or_accepts hc b with hb | ⟨q, t, hb⟩
    · have hfirst' : first' = (c, 0) := handleResponse_of_not_inFlight hb
      have hsecond : second = (first.1, 0) := by
        apply handleResponse_of_not_inFlight
        simp only [first, ha.handleResponse_value, not_inFlight_afterAnswer p s a hb]
      simp only [second', hfirst', hsecond]
      exact ⟨rfl, Nat.add_comm _ _⟩
    · have hfirst : first = (c.afterAnswer p s a, c.sentBy p s a) := ha.handleResponse_value
      have hfirst' : first' = (c.afterAnswer q t b, c.sentBy q t b) := hb.handleResponse_value
      have hsecond := (ha.afterAnswer hb hid).handleResponse_value
      have hsecond' := (hb.afterAnswer ha hid.symm).handleResponse_value
      simp only [second, second', hfirst, hfirst', hsecond, hsecond']
      exact ⟨afterAnswer_comm (ha.panel_ne hb hid), Nat.add_comm _ _⟩

theorem handleResponses_cons_value (c : Controller) (r : Response) (rs : List Response) :
    (c.handleResponses (r :: rs)).value =
      (((c.handleResponse r).value.1.handleResponses rs).value.1,
        (c.handleResponse r).value.2 + ((c.handleResponse r).value.1.handleResponses rs).value.2) :=
  rfl

/-- Answers to different requests can be handled in any order. -/
theorem handleResponses_perm {rs rs' : List Response} (hperm : rs.Perm rs')
    (hids : (rs.map (·.id)).Nodup) (hc : c.InStep) :
    (c.handleResponses rs).value = (c.handleResponses rs').value := by
  induction hperm generalizing c with
  | nil => rfl
  | cons r _ ih =>
    rw [List.map_cons, List.nodup_cons] at hids
    rw [handleResponses_cons_value, handleResponses_cons_value,
      ih hids.2 (inStep_handleResponse hc r)]
  | swap a b rest =>
    have hid : b.id ≠ a.id := by
      intro heq
      simp [heq] at hids
    obtain ⟨hcontroller, hcount⟩ := handleResponse_comm hc hid
    simp only [handleResponses_cons_value, ← Nat.add_assoc]
    rw [hcontroller, hcount]
  | trans hfirst _ ih ih' =>
    have hids' := (hfirst.map (·.id)).nodup_iff.1 hids
    exact (ih hids hc).trans (ih' hids' hc)

end Controller

namespace History

/-- In every state that a run can reach, a pump does the same for any two orders of the same answers
to different requests: the controllers afterwards are equal, with all sessions and the texts at their
surfaces, and as many models have been sent. -/
theorem pump_value_perm (root : String) (ops : List ControllerOp) {rs rs' : List Response}
    (hperm : rs.Perm rs') (hids : (rs.map (·.id)).Nodup) :
    ((run root ops).controller.pump rs).value = ((run root ops).controller.pump rs').value := by
  have hc : (run root ops).controller.handshakes.value.1.InStep :=
    (Controller.sameRequests_handshakes _).inStep (run_bookkept root ops).inStep
  have hanswers := Controller.handleResponses_perm hperm hids hc
  unfold Controller.pump
  simp only [Logged.value_bind, Logged.value_pure, hanswers]

/-- Two panels whose surfaces are ready wait for one document each. -/
def twoPanelOps : List ControllerOp :=
  [.openPreview 1 .fresh "a.json",
    .openPreview 2 .fresh "b.json",
    .surface 1 (.post SurfaceMessage.current.encode),
    .surface 2 (.post SurfaceMessage.current.encode)]

/-- A model for the first panel, an error for the second one, and an answer nobody waits for. -/
def mixedAnswers : List Response :=
  [⟨1, .ok { elements := [] }⟩, ⟨2, .error (.failed "timed out")⟩, ⟨7, .ok { elements := [] }⟩]

/-- The answers backwards: one model is sent in either order. -/
theorem pump_value_reverse_mixedAnswers :
    ((run "/pack" twoPanelOps).controller.pump mixedAnswers).value =
        ((run "/pack" twoPanelOps).controller.pump mixedAnswers.reverse).value ∧
      ((run "/pack" twoPanelOps).controller.pump mixedAnswers).value.2 = 1 :=
  ⟨pump_value_perm "/pack" twoPanelOps (List.reverse_perm mixedAnswers).symm (by decide),
    by decide +kernel⟩

end History
end ModelPreview
