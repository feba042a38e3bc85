import Mathlib
import ModelPreview.Proofs.Preview.Run
import ModelPreview.Proofs.Preview.Sending

/-!
# The bookkeeping of requests

The controller keeps two records of what it waits for: every session knows the number of its latest
unanswered request, and a map takes the numbers of unanswered requests to their panels.  The two agree
in every state of every run, also between two answers of one pump.

Main results:

- `Controller.handleResponse_eq_of_inStep`: an answer is either ignored or accepted by the session
  that waits for it.
- `History.run_bookkept`: the invariant of a run.
- `History.inFlight_tracks_latestRequest`: the two records agree, answers nobody waits for change
  nothing, and no request is answered twice.
-/

namespace ModelPreview

open PreviewEvent

namespace Controller

/-- The request that the session of a panel waits for. -/
def waitsFor (c : Controller) (p : Panel) : Option Nat :=
  (c.sessions.find? p).bind (·.latestRequest)

theorem waitsFor_eq_some_iff {c : Controller} {p : Panel} {id : Nat} :
    c.waitsFor p = some id ↔
      ∃ s, c.sessions.find? p = some s ∧ s.latestRequest = some id := by
  simp [waitsFor, Option.bind_eq_some_iff]

/-- The two records of unanswered requests agree. -/
def InStep (c : Controller) : Prop :=
  ∀ id p, c.inFlight.find? id = some p ↔ c.waitsFor p = some id

/-- Controllers that wait for the same requests and know the same panels for them. -/
structure SameRequests (c c' : Controller) : Prop where
  waitsFor : ∀ p, c'.waitsFor p = c.waitsFor p
  inFlight : c'.inFlight = c.inFlight
  nextRequest : c'.nextRequest = c.nextRequest

theorem SameRequests.inStep {c c' : Controller} (h : SameRequests c c') (hc : c.InStep) :
    c'.InStep := by
  intro id p
  rw [h.inFlight, h.waitsFor]
  exact hc id p

/-! ## Operations that issue or drop no request -/

/-- Changing sessions without touching the requests they wait for. -/
theorem sameRequests_update (c : Controller) (p : Panel) (f : PreviewSession → PreviewSession)
    (hf : ∀ s, (f s).latestRequest = s.latestRequest) :
    SameRequests c { c with sessions := c.sessions.update p f } := by
  refine ⟨fun q => ?_, rfl, rfl⟩
  simp only [Controller.waitsFor, Registry.find?_update]
  by_cases hq : q = p
  · cases hs : c.sessions.find? p with
    | none => simp [hq, hs]
    | some s => simp [hq, hs, hf]
  · simp [hq]

theorem sameRequests_surfaceFailed (c : Controller) (p : Panel) (reason : String) :
    SameRequests c (c.surfaceFailed p reason).value := by
  unfold surfaceFailed
  split
  · exact sameRequests_update c p _ fun s => rfl
  · exact ⟨fun q => rfl, rfl, rfl⟩

/-- The sessions after the handshakes. -/
theorem find?_handshakes (c : Controller) (p : Panel) :
    c.handshakes.value.1.sessions.find? p =
      (c.sessions.find? p).map fun s => (s.noted.flush p).value.1 := by
  simp only [handshakes, SortedMap.find?_mapValues, Option.map_map]
  congr 1
  funext s
  simp [PreviewSession.handshake_value]

theorem sameRequests_handshakes (c : Controller) : SameRequests c c.handshakes.value.1 := by
  refine ⟨fun p => ?_, rfl, rfl⟩
  simp only [waitsFor, find?_handshakes]
  cases c.sessions.find? p with
  | none => rfl
  | some s => simp

/-! ## Issuing requests -/

/-- The sessions after a request. -/
theorem find?_request (c : Controller) (p q : Panel) (uri : String) :
    (c.request p uri).1.sessions.find? q =
      if q = p then (c.sessions.find? p).map (·.expect c.nextRequest uri)
      else c.sessions.find? q := by
  simp only [request, Registry.find?_update]

@[simp]
theorem latestRequest_expect (s : PreviewSession) (id : Nat) (uri : String) :
    (s.expect id uri).latestRequest = some id := by
  unfold PreviewSession.expect PreviewSession.setStatus
  split <;> rfl

/-- After a request the panel waits for it; other panels are not concerned. -/
theorem waitsFor_request {c : Controller} {p : Panel} (hp : ∃ s, c.sessions.find? p = some s)
    (q : Panel) (uri : String) :
    (c.request p uri).1.waitsFor q = if q = p then some c.nextRequest else c.waitsFor q := by
  obtain ⟨s, hs⟩ := hp
  simp only [waitsFor, find?_request]
  by_cases hq : q = p
  · simp [hq, hs]
  · simp [hq]

theorem find?_inFlight_request (c : Controller) (p : Panel) (uri : String) (id : Nat) :
    (c.request p uri).1.inFlight.find? id =
      if id = c.nextRequest then some p
      else if c.waitsFor p = some id then none
      else c.inFlight.find? id := by
  simp only [request, SortedMap.find?_insert]
  split
  · rfl
  · split
    · rename_i old hold
      have hwait : c.waitsFor p = some old := hold
      simp [SortedMap.find?_erase, hwait, eq_comm]
    · rename_i hnone
      have hwait : c.waitsFor p = none := hnone
      simp [hwait]

theorem inStep_request {c : Controller} {p : Panel} (hp : ∃ s, c.sessions.find? p = some s)
    (hc : c.InStep) (hnext : ∀ id q, c.waitsFor q = some id → id < c.nextRequest) (uri : String) :
    (c.request p uri).1.InStep := by
  intro id q
  rw [find?_inFlight_request, waitsFor_request hp]
  by_cases hq : q = p
  · subst hq
    by_cases hid : id = c.nextRequest
    · simp [hid]
    · -- The earlier request of the panel has been dropped, and it had no other one.
      have hother : c.inFlight.find? id = some q → c.waitsFor q = some id := (hc id q).1
      simp only [hid, if_false, if_true, Option.some.injEq]
      constructor
      · intro h
        split at h
        · cases h
        · rename_i hwait
          exact absurd (hother h) hwait
      · intro h
        exact absurd h.symm hid
  · simp only [hq, if_false]
    rw [← hc id q]
    by_cases hid : id = c.nextRequest
    · -- A new number is not waited for by any panel.
      have hfresh : c.inFlight.find? id ≠ some q := by
        intro h
        have := hnext id q ((hc id q).1 h)
        omega
      simp [hid, Ne.symm hq, hid ▸ hfresh]
    · simp only [hid, if_false]
      split
      · rename_i hwait
        have hmine : c.inFlight.find? id = some p := (hc id p).2 hwait
        simp [hmine, Ne.symm hq]
      · rfl

/-- Opening a preview leaves the panel with a session, and no session waits for anything else. -/
theorem sameRequests_openOrReveal (c : Controller) (p : Panel) (link : Link) :
    SameRequests c { c with sessions := (c.sessions.openOrReveal p { link := link }).1 } ∧
      ∃ s, (c.sessions.openOrReveal p { link := link }).1.find? p = some s := by
  refine ⟨⟨fun q => ?_, rfl, rfl⟩, ?_⟩
  · simp only [waitsFor, Registry.find?_openOrReveal]
    by_cases hq : q = p
    · cases hs : c.sessions.find? p with
      | none => simp [hq, hs]
      | some s => simp [hq, hs]
    · simp [hq]
  · simp [Registry.find?_openOrReveal]

theorem openPreview_controller (c : Controller) (p : Panel) (link : Link) (uri : String) :
    (c.openPreview p link uri).value.controller =
      ({ c with sessions := (c.sessions.openOrReveal p { link := link }).1 }.request p uri).1 := by
  simp only [openPreview]
  split <;> rfl

theorem openPreview_request (c : Controller) (p : Panel) (link : Link) (uri : String) :
    (c.openPreview p link uri).value.request = ⟨c.nextRequest, uri⟩ := by
  simp only [openPreview]
  split <;> rfl

/-! ## Closing panels -/

theorem find?_closePanel (c : Controller) (p q : Panel) :
    (c.closePanel p).value.1.sessions.find? q = if q = p then none else c.sessions.find? q := by
  have hsessions : (c.closePanel p).value.1.sessions = c.sessions.erase p := by
    simp only [closePanel, Registry.dispose]
    split <;> rfl
  rw [hsessions, SortedMap.find?_erase]

theorem waitsFor_closePanel (c : Controller) (p q : Panel) :
    (c.closePanel p).value.1.waitsFor q = if q = p then none else c.waitsFor q := by
  simp only [waitsFor, find?_closePanel]
  split <;> rfl

theorem find?_inFlight_closePanel (c : Controller) (p q : Panel) (id : Nat) :
    (c.closePanel p).value.1.inFlight.find? id = some q ↔
      c.inFlight.find? id = some q ∧ q ≠ p := by
  have hinFlight : (c.closePanel p).value.1.inFlight =
      c.inFlight.filter fun _ owner => owner ≠ p := by
    simp only [closePanel, Registry.dispose]
    split <;> rfl
  rw [hinFlight, SortedMap.find?_filter_eq_some_iff]
  simp

theorem nextRequest_closePanel (c : Controller) (p : Panel) :
    (c.closePanel p).value.1.nextRequest = c.nextRequest := by
  simp only [closePanel, Registry.dispose]
  split <;> rfl

/-! ## Answers -/

@[simp]
theorem latestRequest_applyResponse (root : String) (p : Panel) (s : PreviewSession)
    (r : Response) : (applyResponse root p s r).value.1.latestRequest = none := by
  unfold applyResponse
  cases r.result with
  | ok model =>
    simp only [Logged.value_bind]
    split <;> split <;> simp [PreviewSession.setStatus] <;> split <;> rfl
  | error e =>
    simp only [Logged.value_bind, Logged.value_pure, PreviewSession.setStatus]
    split <;> rfl

/-- An answer to a request that is not in flight is ignored. -/
theorem handleResponse_of_not_inFlight {c : Controller} {r : Response}
    (h : c.inFlight.find? r.id = none) : (c.handleResponse r).value = (c, 0) := by
  simp [handleResponse, h]

/-- The controller after the session of a panel has used an answer. -/
def afterAnswer (c : Controller) (p : Panel) (s : PreviewSession) (r : Response) : Controller :=
  { c with
    inFlight := c.inFlight.erase r.id
    sessions := c.sessions.insert p (applyResponse c.root p s r).value.1 }

theorem handleResponse_of_latest {c : Controller} {r : Response} {p : Panel} {s : PreviewSession}
    (hp : c.inFlight.find? r.id = some p) (hs : c.sessions.find? p = some s)
    (hlatest : s.latestRequest = some r.id) :
    (c.handleResponse r).value.1 = c.afterAnswer p s r := by
  simp [handleResponse, hp, hs, hlatest, afterAnswer]

/-- As long as the records agree, an answer is either ignored altogether or accepted by the session
that waits for it; it never meets a missing session or one that waits for something else. -/
theorem handleResponse_eq_of_inStep {c : Controller} (hc : c.InStep) (r : Response) :
    ((∀ p, c.waitsFor p ≠ some r.id) ∧ c.inFlight.find? r.id = none ∧
        (c.handleResponse r).value = (c, 0) ∧ c.acceptance r = []) ∨
      ∃ p s, c.inFlight.find? r.id = some p ∧ c.sessions.find? p = some s ∧
        s.latestRequest = some r.id ∧ (c.handleResponse r).value.1 = c.afterAnswer p s r ∧
        c.acceptance r = [.answered p r] := by
  cases hp : c.inFlight.find? r.id with
  | none =>
    refine .inl ⟨fun p hwait => ?_, rfl, handleResponse_of_not_inFlight hp, ?_⟩
    · rw [← hc r.id p, hp] at hwait
      cases hwait
    · simp [acceptance, hp]
  | some p =>
    obtain ⟨s, hs, hlatest⟩ := waitsFor_eq_some_iff.1 ((hc r.id p).1 hp)
    refine .inr ⟨p, s, rfl, hs, hlatest, handleResponse_of_latest hp hs hlatest, ?_⟩
    simp [acceptance, hp, hs, hlatest]

theorem waitsFor_afterAnswer (c : Controller) (p q : Panel) (s : PreviewSession) (r : Response) :
    (c.afterAnswer p s r).waitsFor q = if q = p then none else c.waitsFor q := by
  simp only [waitsFor, afterAnswer, SortedMap.find?_insert]
  by_cases hq : q = p
  · simp [hq]
  · simp [hq]

theorem inStep_afterAnswer {c : Controller} {p : Panel} {s : PreviewSession} {r : Response}
    (hc : c.InStep) (hp : c.inFlight.find? r.id = some p) : (c.afterAnswer p s r).InStep := by
  intro id q
  rw [waitsFor_afterAnswer]
  simp only [afterAnswer, SortedMap.find?_erase]
  have hwait : c.waitsFor p = some r.id := (hc r.id p).1 hp
  by_cases hid : id = r.id
  · subst hid
    by_cases hq : q = p
    · simp [hq]
    · rw [if_pos rfl, if_neg hq, ← hc r.id q, hp]
      simp [Ne.symm hq]
  · by_cases hq : q = p
    · subst hq
      simp [hid, hc id q, hwait, Ne.symm hid]
    · simp [hid, hq, hc id q]

end Controller

/-! ## The invariant of a run -/

namespace History

/-- What the records of a run say about its requests. -/
structure Bookkept (h : History) : Prop where
  /-- The two records of unanswered requests agree. -/
  inStep : h.controller.InStep
  /-- Numbers below the next one have been used. -/
  issued_lt : ∀ p id, issued p id ∈ h.events → id < h.controller.nextRequest
  /-- The numbers of the requests increase. -/
  issued_increasing : (h.events.filterMap issuedId?).Pairwise (· < ·)
  /-- A session waits for the latest request of its panel. -/
  waitsFor_latest : ∀ p id, h.controller.waitsFor p = some id → latestIssued p h.events = some id
  /-- An answered request has been issued and is not in flight any more. -/
  answered_done : ∀ p r, answered p r ∈ h.events →
    r.id < h.controller.nextRequest ∧ h.controller.inFlight.find? r.id = none
  /-- No request is answered twice. -/
  answered_once : (h.events.filterMap answeredId?).Nodup

namespace Bookkept

variable {h : History}

theorem waitsFor_lt (hb : h.Bookkept) {p : Panel} {id : Nat}
    (hwait : h.controller.waitsFor p = some id) : id < h.controller.nextRequest :=
  hb.issued_lt p id (issued_mem_of_latestIssued (hb.waitsFor_latest p id hwait))

theorem inFlight_lt (hb : h.Bookkept) {p : Panel} {id : Nat}
    (hp : h.controller.inFlight.find? id = some p) : id < h.controller.nextRequest :=
  hb.waitsFor_lt ((hb.inStep id p).1 hp)

end Bookkept

theorem bookkept_start (root : String) : (start root).Bookkept where
  inStep := by
    intro id p
    simp [start, Controller.waitsFor, SortedMap.find?_empty]
  issued_lt := by simp [start]
  issued_increasing := by simp [start]
  waitsFor_latest := by simp [start, Controller.waitsFor, SortedMap.find?_empty]
  answered_done := by simp [start]
  answered_once := by simp [start]

/-- Steps that change no request keep the records. -/
theorem Bookkept.of_sameRequests {h : History} {c : Controller} (hb : h.Bookkept)
    (hsame : Controller.SameRequests h.controller c) : (⟨c, h.events⟩ : History).Bookkept := by
  refine ⟨hsame.inStep hb.inStep, ?_, hb.issued_increasing, ?_, ?_, hb.answered_once⟩
  · intro p id hmem
    rw [hsame.nextRequest]
    exact hb.issued_lt p id hmem
  · intro p id hwait
    rw [hsame.waitsFor] at hwait
    exact hb.waitsFor_latest p id hwait
  · intro p r hmem
    rw [hsame.nextRequest, hsame.inFlight]
    exact hb.answered_done p r hmem

theorem postedUntil_posted (c c' : Controller) :
    ∀ e ∈ c.postedUntil c', ∃ p payload, e = posted p payload := by
  intro e he
  simp only [Controller.postedUntil, List.mem_flatMap, List.mem_map] at he
  obtain ⟨p, -, payload, -, rfl⟩ := he
  exact ⟨p, payload, rfl⟩

@[simp]
theorem postedUntil_self (c : Controller) : c.postedUntil c = [] := by
  simp [Controller.postedUntil]

/-- Posted texts do not matter for the records. -/
theorem Bookkept.append_posted {h : History} {es : List PreviewEvent} (hb : h.Bookkept)
    (hes : ∀ e ∈ es, ∃ p payload, e = posted p payload) :
    (⟨h.controller, h.events ++ es⟩ : History).Bookkept := by
  have hissued : ∀ p id, issued p id ∉ es := by
    intro p id hmem
    obtain ⟨q, payload, heq⟩ := hes _ hmem
    cases heq
  have hanswered : ∀ p r, answered p r ∉ es := by
    intro p r hmem
    obtain ⟨q, payload, heq⟩ := hes _ hmem
    cases heq
  have hids : es.filterMap issuedId? = [] := by
    rw [List.filterMap_eq_nil_iff]
    intro e he
    obtain ⟨q, payload, rfl⟩ := hes e he
    rfl
  have hanswers : es.filterMap answeredId? = [] := by
    rw [List.filterMap_eq_nil_iff]
    intro e he
    obtain ⟨q, payload, rfl⟩ := hes e he
    rfl
  refine ⟨hb.inStep, ?_, ?_, ?_, ?_, ?_⟩
  · intro p id hmem
    exact hb.issued_lt p id ((List.mem_append.1 hmem).resolve_right (hissued p id))
  · simpa [hids] using hb.issued_increasing
  · intro p id hwait
    rw [latestIssued_append_of_forall (hissued p)]
    exact hb.waitsFor_latest p id hwait
  · intro p r hmem
    exact hb.answered_done p r ((List.mem_append.1 hmem).resolve_right (hanswered p r))
  · simpa [hanswers] using hb.answered_once

/-- Issuing a request for a panel with a session keeps the records. -/
theorem Bookkept.request {h : History} (hb : h.Bookkept) {p : Panel}
    (hp : ∃ s, h.controller.sessions.find? p = some s) (uri : String) :
    (⟨(h.controller.request p uri).1,
      h.events ++ [issued p h.controller.nextRequest]⟩ : History).Bookkept := by
  refine ⟨?_, ?_, ?_, ?_, ?_, ?_⟩
  · exact Controller.inStep_request hp hb.inStep (fun id q => hb.waitsFor_lt) uri
  · intro q id hmem
    change id < h.controller.nextRequest + 1
    rcases List.mem_append.1 hmem with hmem | hmem
    · have := hb.issued_lt q id hmem
      omega
    · simp only [List.mem_singleton, PreviewEvent.issued.injEq] at hmem
      omega
  · rw [List.filterMap_append, List.pairwise_append]
    refine ⟨hb.issued_increasing, by simp [issuedId?], ?_⟩
    intro id hid id' hid'
    obtain ⟨e, he, heq⟩ := List.mem_filterMap.1 hid
    have hnew : id' = h.controller.nextRequest := by simpa [issuedId?, eq_comm] using hid'
    cases e with
    | issued q i =>
      cases heq
      exact hnew ▸ hb.issued_lt q id he
    | answered q r => cases heq
    | posted q payload => cases heq
  · intro q id hwait
    rw [Controller.waitsFor_request hp] at hwait
    by_cases hq : q = p
    · subst hq
      rw [if_pos rfl] at hwait
      rw [latestIssued_append_issued, hwait]
    · rw [if_neg hq] at hwait
      rw [latestIssued_append_of_forall]
      · exact hb.waitsFor_latest q id hwait
      · intro id' hmem
        simp only [List.mem_singleton, PreviewEvent.issued.injEq] at hmem
        exact hq hmem.1
  · intro q r hmem
    have hmem' : answered q r ∈ h.events := by simpa using hmem
    obtain ⟨hlt, hnone⟩ := hb.answered_done q r hmem'
    change r.id < h.controller.nextRequest + 1 ∧ _
    refine ⟨by omega, ?_⟩
    rw [Controller.find?_inFlight_request, if_neg (by omega), hnone]
    simp
  · simpa [List.filterMap_cons, answeredId?] using hb.answered_once

theorem Bookkept.closePanel {h : History} (hb : h.Bookkept) (p : Panel) :
    (⟨(h.controller.closePanel p).value.1, h.events⟩ : History).Bookkept := by
  refine ⟨?_, ?_, hb.issued_increasing, ?_, ?_, hb.answered_once⟩
  · intro id q
    rw [Controller.find?_inFlight_closePanel, Controller.waitsFor_closePanel, hb.inStep id q]
    by_cases hq : q = p
    · simp [hq]
    · simp [hq]
  · intro q id hmem
    rw [Controller.nextRequest_closePanel]
    exact hb.issued_lt q id hmem
  · intro q id hwait
    rw [Controller.waitsFor_closePanel] at hwait
    split at hwait
    · cases hwait
    · exact hb.waitsFor_latest q id hwait
  · intro q r hmem
    rw [Controller.nextRequest_closePanel]
    obtain ⟨hlt, hnone⟩ := hb.answered_done q r hmem
    refine ⟨hlt, ?_⟩
    rw [Option.eq_none_iff_forall_ne_some]
    intro owner howner
    have hold := ((Controller.find?_inFlight_closePanel _ _ _ _).1 howner).1
    rw [hnone] at hold
    cases hold

/-- Accepting an answer keeps the records. -/
theorem Bookkept.afterAnswer {h : History} (hb : h.Bookkept) {p : Panel} {s : PreviewSession}
    {r : Response} (hp : h.controller.inFlight.find? r.id = some p) :
    (⟨h.controller.afterAnswer p s r, h.events ++ [answered p r]⟩ : History).Bookkept := by
  refine ⟨Controller.inStep_afterAnswer hb.inStep hp, ?_, ?_, ?_, ?_, ?_⟩
  · intro q id hmem
    exact hb.issued_lt q id (by simpa using hmem)
  · simpa [List.filterMap_cons, issuedId?] using hb.issued_increasing
  · intro q id hwait
    rw [Controller.waitsFor_afterAnswer] at hwait
    split at hwait
    · cases hwait
    · rw [latestIssued_append_of_forall (by simp)]
      exact hb.waitsFor_latest q id hwait
  · intro q r' hmem
    simp only [Controller.afterAnswer, SortedMap.find?_erase]
    rcases List.mem_append.1 hmem with hmem | hmem
    · obtain ⟨hlt, hnone⟩ := hb.answered_done q r' hmem
      exact ⟨hlt, by simp [hnone]⟩
    · simp only [List.mem_singleton, PreviewEvent.answered.injEq] at hmem
      obtain ⟨-, rfl⟩ := hmem
      exact ⟨hb.inFlight_lt hp, by simp⟩
  · rw [List.filterMap_append, List.nodup_append]
    refine ⟨hb.answered_once, by simp [answeredId?], ?_⟩
    intro id hid id' hid'
    have hnew : id' = r.id := by simpa [answeredId?, eq_comm] using hid'
    obtain ⟨e, he, heq⟩ := List.mem_filterMap.1 hid
    cases e with
    | answered q r' =>
      cases heq
      -- A request answered before is no longer in flight, but this one is.
      intro hsame
      have hnone := (hb.answered_done q r' he).2
      rw [hsame, hnew, hp] at hnone
      cases hnone
    | issued q i => cases heq
    | posted q payload => cases heq

/-- An answer that no session waits for leaves no trace. -/
theorem answer_of_not_waited {h : History} (hc : h.controller.InStep) {r : Response}
    (hwait : ∀ p, h.controller.waitsFor p ≠ some r.id) : h.answer r = h := by
  rcases Controller.handleResponse_eq_of_inStep hc r with
    ⟨-, -, hvalue, haccept⟩ | ⟨p, s, hp, -, -, -, -⟩
  · simp [answer, hvalue, haccept]
  · exact absurd ((hc r.id p).1 hp) (hwait p)

theorem Bookkept.answer {h : History} (hb : h.Bookkept) (r : Response) : (h.answer r).Bookkept := by
  rcases Controller.handleResponse_eq_of_inStep hb.inStep r with
    ⟨hwait, -, -, -⟩ | ⟨p, s, hp, -, -, hvalue, haccept⟩
  · rw [answer_of_not_waited hb.inStep hwait]
    exact hb
  · have hafter := hb.afterAnswer (s := s) hp
    simp only [History.answer, hvalue, haccept, ← List.append_assoc]
    exact hafter.append_posted (postedUntil_posted _ _)

theorem Bookkept.handshakes {h : History} (hb : h.Bookkept) : h.handshakes.Bookkept :=
  (hb.of_sameRequests (Controller.sameRequests_handshakes h.controller)).append_posted
    (postedUntil_posted _ _)

theorem Bookkept.step {h : History} (hb : h.Bookkept) (op : ControllerOp)
    (hop : ∀ responses, op ≠ .pump responses) : (h.step op).Bookkept := by
  cases op with
  | openPreview p link uri =>
    obtain ⟨hsame, hp⟩ := Controller.sameRequests_openOrReveal h.controller p link
    have hopened := hb.of_sameRequests hsame
    simpa [History.step, Controller.openPreview_controller, Controller.openPreview_request]
      using hopened.request hp uri
  | documentChanged p uri =>
    simp only [History.step, Controller.documentChanged]
    split
    · rename_i hcontains
      exact hb.request (SortedMap.contains_eq_true_iff.1 hcontains) uri
    · simpa using hb
  | closePanel p => exact hb.closePanel p
  | surfaceFailed p reason =>
    exact hb.of_sameRequests (Controller.sameRequests_surfaceFailed h.controller p reason)
  | pump responses => exact absurd rfl (hop responses)
  | surface p act =>
    have hsame := Controller.sameRequests_update h.controller p
      (fun s => { s with link := s.link.afterAct act }) fun s => rfl
    exact hb.of_sameRequests hsame

/-- The records are right in every state of every run. -/
theorem run_bookkept (root : String) (ops : List ControllerOp) : (run root ops).Bookkept :=
  run_induction (bookkept_start root) (fun _ hb => hb.handshakes) (fun _ r hb => hb.answer r)
    (fun _ op hop hb => hb.step op hop) ops

/-! ## The two records agree -/

theorem run_append_pump (root : String) (ops : List ControllerOp) (responses : List Response) :
    run root (ops ++ [.pump responses]) = responses.foldl answer (run root ops).handshakes := by
  simp [run, step]

/-- In every state of every run a request is in flight for a panel exactly if the session of the
panel waits for it, and its number has been used.  An answer polled by a pump behind any others
leaves everything as it is if no open session waits for it; otherwise it meets the session that does,
so that neither a missing session nor another request is ever met.  No request has two accepted
answers. -/
theorem inFlight_tracks_latestRequest (root : String) (ops : List ControllerOp) :
    let h := run root ops
    (∀ id p, h.controller.inFlight.find? id = some p ↔
        ∃ s, h.controller.sessions.find? p = some s ∧ s.latestRequest = some id) ∧
      (∀ id p, h.controller.inFlight.find? id = some p → id < h.controller.nextRequest) ∧
      (∀ front r back,
        (∀ p s, (run root (ops ++ [.pump front])).controller.sessions.find? p = some s →
          s.latestRequest ≠ some r.id) →
        run root (ops ++ [.pump (front ++ r :: back)]) =
          run root (ops ++ [.pump (front ++ back)])) ∧
      (∀ front (r : Response) p,
        (run root (ops ++ [.pump front])).controller.inFlight.find? r.id = some p →
        ∃ s, (run root (ops ++ [.pump front])).controller.sessions.find? p = some s ∧
          s.latestRequest = some r.id) ∧
      (h.events.filterMap answeredId?).Nodup := by
  have hb := run_bookkept root ops
  refine ⟨?_, fun id p => hb.inFlight_lt, ?_, ?_, hb.answered_once⟩
  · intro id p
    rw [hb.inStep id p, Controller.waitsFor_eq_some_iff]
  · intro front r back hwait
    have hfront := run_bookkept root (ops ++ [.pump front])
    rw [run_append_pump] at hwait hfront
    have hignored := answer_of_not_waited (r := r) hfront.inStep (by
      intro p hp
      obtain ⟨s, hs, hlatest⟩ := Controller.waitsFor_eq_some_iff.1 hp
      exact hwait p s hs hlatest)
    rw [run_append_pump, run_append_pump, List.foldl_append, List.foldl_append, List.foldl_cons,
      hignored]
  · intro front r p hp
    have hfront := run_bookkept root (ops ++ [.pump front])
    exact Controller.waitsFor_eq_some_iff.1 ((hfront.inStep r.id p).1 hp)

end History
end ModelPreview
