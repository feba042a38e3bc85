import Mathlib
import ModelPreview.Proofs.Preview.PanelStep

/-!
# Answers as a panel sees them

An answer is used by the panel that waits for it and concerns no other one.  It is described here by
a function of the panel's own session.

Main results:

- `History.find?_answer` and `History.eventsOf_answer`: an answer.
- `History.run_numbersFromOne`: the numbers of the requests of a run.
-/

namespace ModelPreview

open PreviewEvent

namespace History

variable {h : History} {p : Panel}

/-! ## Answers -/

/-- One panel only waits for a request that is in flight. -/
theorem waitsFor_iff_of_inFlight (hc : h.controller.InStep) {id : Nat}
    (hp : h.controller.inFlight.find? id = some p) (q : Panel) :
    h.controller.waitsFor q = some id ↔ p = q := by
  rw [← hc id q, hp, Option.some_inj]

/-- An answer changes the session that waits for it and no other one. -/
theorem find?_answer (hc : h.controller.InStep) (r : Response) (q : Panel) :
    (h.answer r).controller.sessions.find? q =
      if h.controller.waitsFor q = some r.id then
        (h.controller.sessions.find? q).map fun s =>
          (Controller.applyResponse h.controller.root q s r).value.1
      else h.controller.sessions.find? q := by
  rcases Controller.handleResponse_eq_of_inStep hc r with
    ⟨hwait, -, -, -⟩ | ⟨p, s, hp, hs, -, hvalue, -⟩
  · rw [answer_of_not_waited hc hwait, if_neg (hwait q)]
  · have hafter : (h.answer r).controller = h.controller.afterAnswer p s r := hvalue
    have hwait := waitsFor_iff_of_inFlight hc hp q
    rw [hafter, Controller.afterAnswer, SortedMap.find?_insert]
    by_cases hq : p = q
    · subst hq
      rw [if_pos rfl, if_pos (hwait.2 rfl), hs, Option.map_some]
    · rw [if_neg (Ne.symm hq), if_neg (mt hwait.1 hq)]

/-- The events that an answer leaves at a panel. -/
theorem eventsOf_answer (hc : h.controller.InStep) (r : Response) (q : Panel) :
    eventsOf q (h.answer r).events = eventsOf q h.events ++
      ((if h.controller.waitsFor q = some r.id then [answered q r] else []) ++
        eventsOf q (h.controller.postedUntil (h.answer r).controller)) := by
  have hevents : (h.answer r).events = h.events ++
      (h.controller.acceptance r ++ h.controller.postedUntil (h.answer r).controller) := rfl
  rw [hevents, eventsOf_append, eventsOf_append]
  congr 2
  rcases Controller.handleResponse_eq_of_inStep hc r with
    ⟨hwait, -, -, haccept⟩ | ⟨p, s, hp, -, -, -, haccept⟩
  · rw [haccept, if_neg (hwait q)]
    rfl
  · have hwait := waitsFor_iff_of_inFlight hc hp q
    rw [haccept]
    by_cases hq : p = q
    · rw [if_pos (hwait.2 hq)]
      simp [hq, eventsOf, panel]
    · rw [if_neg (mt hwait.1 hq)]
      simp [hq, eventsOf, panel]

/-- An answer changes nothing but the sessions and the record of unanswered requests. -/
theorem answer_controller (hc : h.controller.InStep) (r : Response) :
    ∃ sessions inFlight, (h.answer r).controller =
      { h.controller with sessions := sessions, inFlight := inFlight } := by
  rcases Controller.handleResponse_eq_of_inStep hc r with
    ⟨hwait, -, -, -⟩ | ⟨p, s, -, -, -, hvalue, -⟩
  · rw [answer_of_not_waited hc hwait]
    exact ⟨h.controller.sessions, h.controller.inFlight, rfl⟩
  · exact ⟨_, _, hvalue⟩

theorem Bookkept.foldl_answer (hb : h.Bookkept) (responses : List Response) :
    (responses.foldl History.answer h).Bookkept := by
  induction responses generalizing h with
  | nil => exact hb
  | cons r rs ih => exact ih (hb.answer r)

/-! ## The events of a run -/

theorem subset_events_answer (h : History) (r : Response) : h.events ⊆ (h.answer r).events :=
  List.subset_append_left _ _

theorem subset_events_foldl_answer (h : History) (responses : List Response) :
    h.events ⊆ (responses.foldl answer h).events := by
  induction responses generalizing h with
  | nil => exact List.Subset.refl _
  | cons r rs ih => exact List.Subset.trans (subset_events_answer h r) (ih (h.answer r))

theorem subset_events_foldl (h : History) (ops : List ControllerOp) :
    h.events ⊆ (ops.foldl step h).events := by
  induction ops generalizing h with
  | nil => exact List.Subset.refl _
  | cons op ops ih =>
    refine List.Subset.trans ?_ (ih (h.step op))
    by_cases hop : ∃ responses, op = .pump responses
    · obtain ⟨responses, rfl⟩ := hop
      exact List.Subset.trans (List.subset_append_left _ _)
        (subset_events_foldl_answer h.handshakes responses)
    · obtain ⟨new, hnew, -⟩ := step_events h op fun responses heq => hop ⟨responses, heq⟩
      rw [hnew]
      exact List.subset_append_left _ _

/-- Pumps issue no requests. -/
theorem issued_mem_of_answer {r : Response} {id : Nat} (hid : issued p id ∈ (h.answer r).events) :
    issued p id ∈ h.events := by
  rcases List.mem_append.1 hid with hid | hid
  · exact hid
  rcases List.mem_append.1 hid with hid | hid
  · unfold Controller.acceptance at hid
    split at hid
    · cases hid
    · split at hid
      · cases hid
      · split at hid
        · simp at hid
        · cases hid
  · obtain ⟨q, payload, heq⟩ := postedUntil_posted _ _ _ hid
    cases heq

theorem issued_mem_of_handshakes {id : Nat} (hid : issued p id ∈ h.handshakes.events) :
    issued p id ∈ h.events := by
  rcases List.mem_append.1 hid with hid | hid
  · exact hid
  · obtain ⟨q, payload, heq⟩ := postedUntil_posted _ _ _ hid
    cases heq

/-- Requests are numbered from one. -/
structure NumbersFromOne (h : History) : Prop where
  next : 0 < h.controller.nextRequest
  issued : ∀ p id, .issued p id ∈ h.events → 0 < id

theorem NumbersFromOne.step (hn : h.NumbersFromOne) (hop : op.panel? = some p) :
    (h.step op).NumbersFromOne := by
  refine ⟨?_, ?_⟩
  · rw [nextRequest_step h hop]
    exact Nat.add_pos_left hn.next _
  · intro p' id hid
    rw [events_step h hop] at hid
    rcases List.mem_append.1 hid with hid | hid
    · exact hn.issued p' id hid
    · split at hid
      · simp only [List.mem_singleton, PreviewEvent.issued.injEq] at hid
        exact hid.2 ▸ hn.next
      · cases hid

theorem run_numbersFromOne (root : String) (ops : List ControllerOp) :
    (run root ops).NumbersFromOne := by
  have hrun : (run root ops).Bookkept ∧ (run root ops).NumbersFromOne := by
    apply run_induction (P := fun h => h.Bookkept ∧ h.NumbersFromOne)
    · exact ⟨bookkept_start root, Nat.one_pos, by simp [start]⟩
    · rintro h ⟨hb, hn⟩
      exact ⟨hb.handshakes, hn.next, fun p id hid => hn.issued p id (issued_mem_of_handshakes hid)⟩
    · rintro h r ⟨hb, hn⟩
      obtain ⟨sessions, inFlight, heq⟩ := answer_controller hb.inStep r
      refine ⟨hb.answer r, ?_, fun p id hid => hn.issued p id (issued_mem_of_answer hid)⟩
      rw [heq]
      exact hn.next
    · rintro h op hpump ⟨hb, hn⟩
      cases hop : op.panel? with
      | none =>
        obtain ⟨responses, rfl⟩ := ControllerOp.exists_pump_of_panel? hop
        exact absurd rfl (hpump responses)
      | some p => exact ⟨hb.step op hpump, hn.step hop⟩
  exact hrun.2

end History
end ModelPreview
