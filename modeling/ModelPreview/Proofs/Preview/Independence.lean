import Mathlib
import ModelPreview.Proofs.Preview.PanelView

/-!
# Panels do not interfere

The panels of a controller share the numbers of the requests, the map of unanswered ones and the pumps.
Nevertheless a panel sees nothing of the others: if everything that concerns the others is left out of
a run, then the panel goes through the same states and the same texts are posted to it; only the
numbers of its requests become smaller.  The two runs are kept side by side by `History.Mirrors`, a
relation between their states that looks at one panel only.

Main definitions:

- `renumber`: the number of a request once the requests of others are left out.
- `History.restrictTo`: a run without what concerns other panels.
- `History.Mirrors`: two histories agree about a panel up to the numbers of requests.

Main results:

- `History.Mirrors.step_other` and `History.Mirrors.step_own`: what one operation does to the relation.
- `History.mirrors_foldl`: the same for runs.
- `History.panels_do_not_interfere`: what a panel shows and gets in both runs.
-/

namespace ModelPreview

open PreviewEvent

/-! ## Renumbering requests -/

/-- The number of a request once the requests of others are left out. -/
def renumber (others : List Nat) (id : Nat) : Nat := id - others.countP (· < id)

section Renumber

variable {others : List Nat}

theorem countP_lt_succ (others : List Nat) (id : Nat) :
    others.countP (· < id + 1) = others.countP (· < id) + others.count id := by
  induction others with
  | nil => rfl
  | cons n others ih =>
    simp only [List.countP_cons, List.count_cons, ih, decide_eq_true_eq, beq_iff_eq]
    split_ifs <;> omega

theorem countP_lt_le (hnodup : others.Nodup) (id : Nat) : others.countP (· < id) ≤ id := by
  induction id with
  | zero => simp
  | succ id ih =>
    have hcount := List.nodup_iff_count_le_one.1 hnodup id
    rw [countP_lt_succ]
    omega

/-- Behind a request of others the count stands still. -/
theorem renumber_succ_of_mem (hnodup : others.Nodup) {id : Nat} (hid : id ∈ others) :
    renumber others (id + 1) = renumber others id := by
  rw [renumber, countP_lt_succ, List.count_eq_one_of_mem hnodup hid, renumber]
  omega

/-- Behind any other one it goes on. -/
theorem renumber_succ_of_notMem (hnodup : others.Nodup) {id : Nat} (hid : id ∉ others) :
    renumber others (id + 1) = renumber others id + 1 := by
  have hle := countP_lt_le hnodup id
  rw [renumber, countP_lt_succ, List.count_eq_zero_of_not_mem hid, renumber]
  omega

theorem monotone_renumber (hnodup : others.Nodup) : Monotone (renumber others) := by
  apply monotone_nat_of_le_succ
  intro id
  by_cases hid : id ∈ others
  · rw [renumber_succ_of_mem hnodup hid]
  · rw [renumber_succ_of_notMem hnodup hid]
    exact Nat.le_succ _

/-- Renumbering keeps the order of the requests that are not left out. -/
theorem strictMonoOn_renumber (hnodup : others.Nodup) :
    StrictMonoOn (renumber others) {id | id ∉ others} := by
  intro id hid id' _ hlt
  calc renumber others id < renumber others (id + 1) := by
        rw [renumber_succ_of_notMem hnodup hid]
        exact Nat.lt_succ_self _
    _ ≤ renumber others id' := monotone_renumber hnodup hlt

end Renumber

/-- An answer with its request renumbered. -/
def Response.renumbered (ρ : Nat → Nat) (r : Response) : Response := { r with id := ρ r.id }

/-- An event with its requests renumbered. -/
def PreviewEvent.renumbered (ρ : Nat → Nat) : PreviewEvent → PreviewEvent
  | issued p id => issued p (ρ id)
  | answered p r => answered p (r.renumbered ρ)
  | posted p payload => posted p payload

theorem PreviewEvent.postedTo_map_renumbered (ρ : Nat → Nat) (p : Panel) (es : List PreviewEvent) :
    postedTo p (es.map (·.renumbered ρ)) = postedTo p es := by
  rw [postedTo, List.filterMap_map]
  congr 1
  funext e
  cases e <;> rfl

theorem PreviewEvent.filterMap_issuedFor?_map_renumbered (ρ : Nat → Nat) (p : Panel)
    (es : List PreviewEvent) :
    (es.map (·.renumbered ρ)).filterMap (issuedFor? p) = (es.filterMap (issuedFor? p)).map ρ := by
  rw [List.filterMap_map, List.map_filterMap]
  congr 1
  funext e
  cases e with
  | issued q id => by_cases hq : q = p <;> simp [renumbered, issuedFor?, hq]
  | answered q r => rfl
  | posted q payload => rfl

/-- What is issued for a panel is found among its own events. -/
theorem PreviewEvent.filterMap_issuedFor?_eventsOf (p : Panel) (es : List PreviewEvent) :
    (eventsOf p es).filterMap (issuedFor? p) = es.filterMap (issuedFor? p) := by
  rw [eventsOf, List.filterMap_filter]
  congr 1
  funext e
  cases e with
  | issued q id => by_cases hq : q = p <;> simp [issuedFor?, panel, hq]
  | answered q r => simp [issuedFor?]
  | posted q payload => simp [issuedFor?]

/-! ## Sessions -/

namespace PreviewSession

/-- A session with its request renumbered. -/
def renumbered (ρ : Nat → Nat) (s : PreviewSession) : PreviewSession :=
  { s with latestRequest := s.latestRequest.map ρ }

variable (ρ : Nat → Nat) (s : PreviewSession)

theorem noted_renumbered : (s.renumbered ρ).noted = s.noted.renumbered ρ := by
  unfold noted
  dsimp only [renumbered]
  split <;> rfl

theorem flush_renumbered (p : Panel) :
    ((s.renumbered ρ).flush p).value.1 = (s.flush p).value.1.renumbered ρ := by
  rw [flush_value, flush_value]
  have hsendable : (s.renumbered ρ).sendable? = s.sendable? := rfl
  rw [hsendable]
  cases s.sendable? with
  | none => rfl
  | some m =>
    dsimp only [afterSending, renumbered]
    split <;> rfl

theorem setStatus_renumbered (status : PreviewStatus) :
    (s.renumbered ρ).setStatus status = (s.setStatus status).renumbered ρ := by
  have herror : (s.renumbered ρ).surfaceError = s.surfaceError := rfl
  unfold setStatus
  rw [herror]
  split <;> rfl

theorem expect_renumbered (id : Nat) (uri : String) :
    (s.renumbered ρ).expect (ρ id) uri = (s.expect id uri).renumbered ρ :=
  setStatus_renumbered ρ { s with latestRequest := some id, document := some uri } .loading

end PreviewSession

/-- An answer is used in the same way whatever the number of its request. -/
theorem Controller.applyResponse_renumbered (ρ : Nat → Nat) (root : String) (p : Panel)
    (s : PreviewSession) (r : Response) :
    (applyResponse root p (s.renumbered ρ) (r.renumbered ρ)).value.1 =
      (applyResponse root p s r).value.1.renumbered ρ := by
  have hsame : (applyResponse root p (s.renumbered ρ) (r.renumbered ρ)).value.1 =
      (applyResponse root p s r).value.1 := by
    obtain ⟨id, result⟩ := r
    cases result with
    | error e => rfl
    | ok model =>
      by_cases hdropped : 0 < (model.resolve root).value.dropped
      · cases herr : s.surfaceError <;>
          simp [applyResponse, Response.renumbered, PreviewSession.renumbered, hdropped, herr]
      · cases herr : s.surfaceError <;>
          simp [applyResponse, Response.renumbered, PreviewSession.renumbered, hdropped, herr]
  have hnone := latestRequest_applyResponse root p s r
  rw [hsame, PreviewSession.renumbered, hnone, Option.map_none, ← hnone]

/-- An operation does the same to a renumbered session. -/
theorem ControllerOp.sessionAfter_renumbered (ρ : Nat → Nat) (op : ControllerOp) (id : Nat)
    (o : Option PreviewSession) :
    op.sessionAfter (ρ id) (o.map (·.renumbered ρ)) =
      (op.sessionAfter id o).map (·.renumbered ρ) := by
  cases op with
  | openPreview p link uri =>
    cases o with
    | none => exact congrArg some (PreviewSession.expect_renumbered ρ { link := link } id uri)
    | some s => exact congrArg some (PreviewSession.expect_renumbered ρ s id uri)
  | documentChanged p uri =>
    cases o with
    | none => rfl
    | some s => exact congrArg some (PreviewSession.expect_renumbered ρ s id uri)
  | closePanel p => rfl
  | surfaceFailed p reason => cases o <;> rfl
  | pump responses => rfl
  | surface p act => cases o <;> rfl

namespace History

variable {h : History} {op : ControllerOp} {p : Panel}

/-! ## Two histories side by side -/

/-- Two histories agree about a panel, up to the numbers of requests. -/
structure Mirrors (ρ : Nat → Nat) (q : Panel) (h h' : History) : Prop where
  /-- Textures are looked up in the same place. -/
  root : h'.controller.root = h.controller.root
  /-- The next request of one is the next request of the other. -/
  next : h'.controller.nextRequest = ρ h.controller.nextRequest
  /-- The panel has the same session. -/
  session : h'.controller.sessions.find? q =
    (h.controller.sessions.find? q).map (·.renumbered ρ)
  /-- The panel has seen the same events. -/
  events : eventsOf q h'.events = (eventsOf q h.events).map (·.renumbered ρ)

variable {ρ : Nat → Nat} {q : Panel} {h' : History}

theorem Mirrors.waitsFor (hm : Mirrors ρ q h h') :
    h'.controller.waitsFor q = (h.controller.waitsFor q).map ρ := by
  rw [Controller.waitsFor, hm.session, Controller.waitsFor]
  cases h.controller.sessions.find? q <;> rfl

/-- The same texts lie at the surface of a panel whose sessions agree. -/
theorem inbox_eq_of_session {c c' : Controller}
    (hs : c'.sessions.find? q = (c.sessions.find? q).map (·.renumbered ρ)) :
    c'.inbox q = c.inbox q := by
  rw [Controller.inbox, hs, Controller.inbox]
  cases c.sessions.find? q <;> rfl

/-- What is posted to the panel from one pair of histories to the next is the same. -/
theorem Mirrors.eventsOf_postedUntil (hm : Mirrors ρ q h h') {c c' : Controller}
    (hs : c'.sessions.find? q = (c.sessions.find? q).map (·.renumbered ρ)) :
    eventsOf q (h'.controller.postedUntil c') =
      (eventsOf q (h.controller.postedUntil c)).map (·.renumbered ρ) := by
  rw [Controller.eventsOf_postedUntil, Controller.eventsOf_postedUntil, inbox_eq_of_session hs,
    inbox_eq_of_session hm.session, List.map_map]
  rfl

theorem Mirrors.handshakes (hm : Mirrors ρ q h h') : Mirrors ρ q h.handshakes h'.handshakes := by
  have hsession : h'.handshakes.controller.sessions.find? q =
      (h.handshakes.controller.sessions.find? q).map (·.renumbered ρ) := by
    rw [History.handshakes, History.handshakes, Controller.find?_handshakes,
      Controller.find?_handshakes, hm.session, Option.map_map, Option.map_map]
    congr 1
    funext s
    simp only [Function.comp_apply, PreviewSession.noted_renumbered,
      PreviewSession.flush_renumbered]
  refine ⟨hm.root, hm.next, hsession, ?_⟩
  have hposted := hm.eventsOf_postedUntil hsession
  rw [History.handshakes, History.handshakes, eventsOf_append, eventsOf_append, List.map_append,
    hm.events]
  exact congrArg (_ ++ ·) hposted

/-- An answer that the panel does not wait for can be left out. -/
theorem Mirrors.answer_other (hm : Mirrors ρ q h h') (hc : h.controller.InStep) {r : Response}
    (hwait : h.controller.waitsFor q ≠ some r.id) : Mirrors ρ q (h.answer r) h' := by
  have hfind : (h.answer r).controller.sessions.find? q = h.controller.sessions.find? q := by
    rw [find?_answer hc, if_neg hwait]
  obtain ⟨sessions, inFlight, heq⟩ := answer_controller hc r
  refine ⟨?_, ?_, ?_, ?_⟩
  · rw [heq, hm.root]
  · rw [heq, hm.next]
  · rw [hfind, hm.session]
  · rw [eventsOf_answer hc, if_neg hwait, Controller.eventsOf_postedUntil_of_find?_eq hfind,
      List.append_nil, List.append_nil, hm.events]

/-- Any other answer is used, or ignored, by the panel in both histories. -/
theorem Mirrors.answer_own (hm : Mirrors ρ q h h') (hc : h.controller.InStep)
    (hc' : h'.controller.InStep) {r : Response}
    (hρ : ∀ id, h.controller.waitsFor q = some id → ρ id = ρ r.id → id = r.id) :
    Mirrors ρ q (h.answer r) (h'.answer (r.renumbered ρ)) := by
  have hwait : h'.controller.waitsFor q = some (r.renumbered ρ).id ↔
      h.controller.waitsFor q = some r.id := by
    rw [hm.waitsFor, Option.map_eq_some_iff]
    constructor
    · rintro ⟨id, hid, heq⟩
      rw [hid, hρ id hid heq]
    · intro hid
      exact ⟨r.id, hid, rfl⟩
  have hsession : (h'.answer (r.renumbered ρ)).controller.sessions.find? q =
      ((h.answer r).controller.sessions.find? q).map (·.renumbered ρ) := by
    rw [find?_answer hc', find?_answer hc, hm.session, hm.root]
    by_cases hw : h.controller.waitsFor q = some r.id
    · rw [if_pos (hwait.2 hw), if_pos hw, Option.map_map, Option.map_map]
      congr 1
      funext s
      exact Controller.applyResponse_renumbered ρ h.controller.root q s r
    · rw [if_neg (mt hwait.1 hw), if_neg hw]
  obtain ⟨sessions, inFlight, heq⟩ := answer_controller hc r
  obtain ⟨sessions', inFlight', heq'⟩ := answer_controller hc' (r.renumbered ρ)
  refine ⟨?_, ?_, hsession, ?_⟩
  · rw [heq', heq, hm.root]
  · rw [heq', heq, hm.next]
  · rw [eventsOf_answer hc', eventsOf_answer hc, hm.events, hm.eventsOf_postedUntil hsession,
      List.map_append, List.map_append]
    congr 2
    by_cases hw : h.controller.waitsFor q = some r.id
    · rw [if_pos (hwait.2 hw), if_pos hw]
      rfl
    · rw [if_neg (mt hwait.1 hw), if_neg hw]
      rfl

/-- An operation on another panel can be left out, together with the request that it issues. -/
theorem Mirrors.step_other (hm : Mirrors ρ q h h') (hop : op.panel? = some p) (hq : p ≠ q)
    (hρ : ∀ id, issued p id ∈ (h.step op).events → ρ (id + 1) = ρ id) :
    Mirrors ρ q (h.step op) h' := by
  have hevents := events_step h hop
  refine ⟨?_, ?_, ?_, ?_⟩
  · rw [step_root h op (ControllerOp.ne_pump_of_panel? hop), hm.root]
  · rw [nextRequest_step h hop, hm.next]
    split at hevents
    · rename_i hissues
      rw [if_pos hissues]
      exact (hρ _ (by simp [hevents])).symm
    · rename_i hissues
      rw [if_neg hissues]
      rfl
  · rw [find?_step h hop, if_neg (Ne.symm hq), hm.session]
  · have hnone : eventsOf q (h.step op).events = eventsOf q h.events := by
      rw [hevents, eventsOf_append]
      split
      · simp [eventsOf, panel, hq]
      · exact List.append_nil _
    rw [hnone, hm.events]

/-- An operation on the panel itself does the same in both histories. -/
theorem Mirrors.step_own (hm : Mirrors ρ q h h') (hop : op.panel? = some q)
    (hρ : ∀ id, issued q id ∈ (h.step op).events → ρ (id + 1) = ρ id + 1) :
    Mirrors ρ q (h.step op) (h'.step op) := by
  have hissues : op.issues (h'.controller.sessions.find? q) =
      op.issues (h.controller.sessions.find? q) := by
    rw [hm.session, ControllerOp.issues_map]
  have hevents := events_step h hop
  refine ⟨?_, ?_, ?_, ?_⟩
  · rw [step_root h op (ControllerOp.ne_pump_of_panel? hop), step_root h' op (ControllerOp.ne_pump_of_panel? hop), hm.root]
  · rw [nextRequest_step h hop, nextRequest_step h' hop, hissues, hm.next]
    split at hevents
    · rename_i hnew
      rw [if_pos hnew]
      exact (hρ _ (by simp [hevents])).symm
    · rename_i hnew
      rw [if_neg hnew]
      rfl
  · rw [find?_step h hop, find?_step h' hop, if_pos rfl, if_pos rfl, hm.next, hm.session,
      ControllerOp.sessionAfter_renumbered]
  · rw [events_step h' hop, hevents, hissues, eventsOf_append, eventsOf_append, List.map_append,
      hm.events, hm.next]
    congr 1
    split
    · simp [eventsOf, panel, renumbered]
    · rfl

/-! ## Runs without the other panels -/

/-- The answers of a pump without those to requests of others, renumbered. -/
def restrictAnswers (others : List Nat) (responses : List Response) : List Response :=
  (responses.filter (·.id ∉ others)).map (·.renumbered (renumber others))

/-- An operation without what concerns other panels. -/
def restrictOp (q : Panel) (others : List Nat) : ControllerOp → Option ControllerOp
  | .pump responses => some (.pump (restrictAnswers others responses))
  | op => if op.panel? = some q then some op else none

/-- A run without what concerns other panels. -/
def restrictTo (q : Panel) (others : List Nat) (ops : List ControllerOp) : List ControllerOp :=
  ops.filterMap (restrictOp q others)

/-- The requests issued for other panels. -/
def requestsOfOthers (q : Panel) (es : List PreviewEvent) : List Nat :=
  (es.filter (·.panel ≠ q)).filterMap issuedId?

/-- A list of numbers separates the requests of a panel from those of the others. -/
structure Separates (others : List Nat) (q : Panel) (es : List PreviewEvent) : Prop where
  nodup : others.Nodup
  own : ∀ id, issued q id ∈ es → id ∉ others
  other : ∀ p id, issued p id ∈ es → p ≠ q → id ∈ others

variable {others : List Nat} {es fs : List PreviewEvent}

theorem Separates.mono (hsep : Separates others q fs) (hsub : es ⊆ fs) : Separates others q es :=
  ⟨hsep.nodup, fun id hid => hsep.own id (hsub hid), fun p id hid => hsep.other p id (hsub hid)⟩

/-- A panel does not wait for the requests of others. -/
theorem Separates.waitsFor_notMem (hsep : Separates others q h.events) (hb : h.Bookkept) {id : Nat}
    (hwait : h.controller.waitsFor q = some id) : id ∉ others :=
  hsep.own id (issued_mem_of_latestIssued (hb.waitsFor_latest q id hwait))

theorem mirrors_foldl_answer (responses : List Response)
    (hm : Mirrors (renumber others) q h h') (hb : h.Bookkept) (hb' : h'.Bookkept)
    (hsep : Separates others q (responses.foldl answer h).events) :
    Mirrors (renumber others) q (responses.foldl answer h)
      ((restrictAnswers others responses).foldl answer h') := by
  induction responses generalizing h h' with
  | nil => exact hm
  | cons r rs ih =>
    have hnow : Separates others q h.events :=
      hsep.mono (subset_events_foldl_answer h (r :: rs))
    by_cases hr : r.id ∈ others
    · have hskip : restrictAnswers others (r :: rs) = restrictAnswers others rs := by
        simp [restrictAnswers, hr]
      rw [hskip]
      refine ih (hm.answer_other hb.inStep ?_) (hb.answer r) hb' hsep
      intro hwait
      exact hnow.waitsFor_notMem hb hwait hr
    · have hkeep : restrictAnswers others (r :: rs) =
          r.renumbered (renumber others) :: restrictAnswers others rs := by
        simp [restrictAnswers, hr]
      rw [hkeep]
      refine ih (hm.answer_own hb.inStep hb'.inStep ?_) (hb.answer r) (hb'.answer _) hsep
      intro id hwait heq
      exact (strictMonoOn_renumber hsep.nodup).injOn (hnow.waitsFor_notMem hb hwait) hr heq

theorem restrictOp_of_panel (q : Panel) (others : List Nat) (hop : op.panel? = some p) :
    restrictOp q others op = if p = q then some op else none := by
  cases op with
  | pump responses => cases hop
  | _ =>
    cases hop
    simp [restrictOp, ControllerOp.panel?]

/-- Along a run the history of the panel is the one of the run without the others. -/
theorem mirrors_foldl (ops : List ControllerOp) (hm : Mirrors (renumber others) q h h')
    (hb : h.Bookkept) (hb' : h'.Bookkept) (hsep : Separates others q (ops.foldl step h).events) :
    Mirrors (renumber others) q (ops.foldl step h) ((restrictTo q others ops).foldl step h') := by
  induction ops generalizing h h' with
  | nil => exact hm
  | cons op ops ih =>
    have hnext : Separates others q (h.step op).events :=
      hsep.mono (subset_events_foldl (h.step op) ops)
    cases hop : op.panel? with
    | none =>
      obtain ⟨responses, rfl⟩ := ControllerOp.exists_pump_of_panel? hop
      exact ih (mirrors_foldl_answer responses hm.handshakes hb.handshakes hb'.handshakes hnext)
        (hb.handshakes.foldl_answer responses) (hb'.handshakes.foldl_answer _) hsep
    | some p =>
      have hpump := ControllerOp.ne_pump_of_panel? hop
      have hop' := restrictOp_of_panel q others hop
      by_cases hp : p = q
      · subst hp
        rw [if_pos rfl] at hop'
        rw [restrictTo, List.filterMap_cons_some hop']
        refine ih (hm.step_own hop ?_) (hb.step op hpump) (hb'.step op hpump) hsep
        intro id hid
        exact renumber_succ_of_notMem hsep.nodup (hnext.own id hid)
      · rw [if_neg hp] at hop'
        rw [restrictTo, List.filterMap_cons_none hop']
        refine ih (hm.step_other hop hp ?_) (hb.step op hpump) hb' hsep
        intro id hid
        exact renumber_succ_of_mem hsep.nodup (hnext.other p id hid hp)

/-- The requests of others are separated from those of the panel, because no number is used twice. -/
theorem Bookkept.separates (hb : h.Bookkept) (q : Panel) :
    Separates (requestsOfOthers q h.events) q h.events where
  nodup := by
    have hsublist : (requestsOfOthers q h.events).Sublist (h.events.filterMap issuedId?) :=
      List.filter_sublist.filterMap _
    exact (hb.issued_increasing.sublist hsublist).imp Nat.ne_of_lt
  own id hid hother := by
    obtain ⟨e, he, heid⟩ := List.mem_filterMap.1 hother
    obtain ⟨hmem, hpanel⟩ := List.mem_filter.1 he
    obtain ⟨front, back, heq⟩ := List.append_of_mem hid
    have hown : issuedId? (issued q id) = some id := rfl
    have hincreasing := hb.issued_increasing
    rw [heq, List.filterMap_append, List.filterMap_cons_some hown, List.pairwise_append,
      List.pairwise_cons] at hincreasing
    rw [heq, List.mem_append, List.mem_cons] at hmem
    rcases hmem with hfront | rfl | hback
    · exact lt_irrefl id
        (hincreasing.2.2 id (List.mem_filterMap.2 ⟨e, hfront, heid⟩) id List.mem_cons_self)
    · simp [panel] at hpanel
    · exact lt_irrefl id (hincreasing.2.1.1 id (List.mem_filterMap.2 ⟨e, hback, heid⟩))
  other p id hid hp := by
    refine List.mem_filterMap.2 ⟨issued p id, List.mem_filter.2 ⟨hid, ?_⟩, rfl⟩
    exact decide_eq_true hp

theorem zero_notMem_requestsOfOthers (hn : h.NumbersFromOne) (q : Panel) :
    0 ∉ requestsOfOthers q h.events := by
  intro hmem
  obtain ⟨e, he, heid⟩ := List.mem_filterMap.1 hmem
  cases e with
  | issued p id =>
    cases heid
    exact lt_irrefl 0 (hn.issued p 0 (List.mem_filter.1 he).1)
  | answered p r => cases heid
  | posted p payload => cases heid

theorem mirrors_start (root : String) (q : Panel) (hzero : 0 ∉ others) (hnodup : others.Nodup) :
    Mirrors (renumber others) q (start root) (start root) where
  root := rfl
  next := by
    have hone : renumber others 1 = renumber others 0 + 1 := renumber_succ_of_notMem hnodup hzero
    rw [renumber.eq_def others 0, Nat.zero_sub] at hone
    exact hone.symm
  session := rfl
  events := rfl

/-- A panel sees nothing of the others.  Take any run, `ops` followed by `rest`, and leave out of it
all operations on panels other than `q`, all that their surfaces do and all answers to their requests,
renumbering the requests that are left in their order.  After `ops` the panel has the same status,
document and held model with and without the others, the same texts have been posted to it, and its
requests are the same up to their numbers. -/
theorem panels_do_not_interfere (root : String) (q : Panel) (ops rest : List ControllerOp) :
    let others := requestsOfOthers q (run root (ops ++ rest)).events
    let h := run root ops
    let h' := run root (restrictTo q others ops)
    StrictMonoOn (renumber others) {id | id ∉ others} ∧
      run root (restrictTo q others (ops ++ rest)) = (restrictTo q others rest).foldl step h' ∧
      h'.controller.status? q = h.controller.status? q ∧
      h'.controller.document? q = h.controller.document? q ∧
      (h'.controller.sessions.find? q).map (·.pendingModel) =
        (h.controller.sessions.find? q).map (·.pendingModel) ∧
      postedTo q h'.events = postedTo q h.events ∧
      h'.controller.inbox q = h.controller.inbox q ∧
      h'.events.filterMap (issuedFor? q) =
        (h.events.filterMap (issuedFor? q)).map (renumber others) ∧
      h'.controller.waitsFor q = (h.controller.waitsFor q).map (renumber others) := by
  intro others h h'
  have hsep : Separates others q (run root (ops ++ rest)).events :=
    (run_bookkept root (ops ++ rest)).separates q
  have hnow : Separates others q h.events := by
    apply hsep.mono
    rw [run, List.foldl_append]
    exact subset_events_foldl h rest
  have hzero : 0 ∉ others :=
    zero_notMem_requestsOfOthers (run_numbersFromOne root (ops ++ rest)) q
  have hm : Mirrors (renumber others) q h h' :=
    mirrors_foldl ops (mirrors_start root q hzero hsep.nodup) (bookkept_start root)
      (bookkept_start root) hnow
  refine ⟨strictMonoOn_renumber hsep.nodup, ?_, ?_, ?_, ?_, ?_, inbox_eq_of_session hm.session, ?_,
    hm.waitsFor⟩
  · rw [run, restrictTo, List.filterMap_append, List.foldl_append]
    rfl
  · rw [Controller.status?, hm.session, Option.map_map]
    rfl
  · rw [Controller.document?, hm.session, Option.bind_map]
    rfl
  · rw [hm.session, Option.map_map]
    rfl
  · rw [← postedTo_eventsOf, hm.events, postedTo_map_renumbered, postedTo_eventsOf]
  · rw [← filterMap_issuedFor?_eventsOf, hm.events, filterMap_issuedFor?_map_renumbered,
      filterMap_issuedFor?_eventsOf]

end History
end ModelPreview
