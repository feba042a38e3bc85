import Mathlib
import ModelPreview.Proofs.Bridge.Exchange

/-!
# Pumps, text by text

A pump of the controller's end takes texts from the inbox one by one.  What one of them does depends
on the texts before it only through the state of the bridge, and not at all on the texts behind it.
Texts that cannot be decoded are passed over; an announcement of another version ends the pump, and so
does the first announcement if what was held back cannot be posted.  The texts behind are then left for
the next pump.

Main definitions:

- `Link.queued`: the link with other texts in the inbox of the controller.

Main results:

- `HostBridge.pump_append_of_ok`: a pump over two queues in a row is two pumps in a row.
- `HostBridge.pump_filter_decodes`: texts that cannot be decoded change nothing.
- `HostBridge.pump_of_refused` and `HostBridge.pump_of_stranded`: the two ways in which a pump ends
  early.
-/

namespace ModelPreview

/-! ## Texts at the controller's end -/

/-- The link with other texts in the inbox of the controller. -/
def Link.queued (l : Link) (ps : List String) : Link :=
  l.setInbox .host { l.host with unread := ps }

@[simp]
theorem Link.unread_queued (l : Link) (ps : List String) : (l.queued ps).host.unread = ps := rfl

/-- Whether a text can be decoded. -/
def SurfaceMessage.decodes (payload : String) : Bool := (decode payload).isOk

/-- What is left of an operation, seen together with the callbacks that ran and the messages that were
counted before it. -/
def HostStep.after {κ : Type} (s : HostStep κ Nat) (fired : List κ) (n : Nat) : HostStep κ Nat :=
  { s with fired := fired ++ s.fired, result := s.result.map (n + ·) }

@[simp]
theorem HostStep.after_nil_zero {κ : Type} (s : HostStep κ Nat) : s.after [] 0 = s := by
  obtain ⟨bridge, link, fired, result⟩ := s
  cases result <;> simp [after, Except.map]

@[simp]
theorem HostStep.after_after {κ : Type} (s : HostStep κ Nat) (fired fired' : List κ) (n n' : Nat) :
    (s.after fired n).after fired' n' = s.after (fired' ++ fired) (n' + n) := by
  obtain ⟨bridge, link, old, result⟩ := s
  cases result <;> simp [after, Except.map, Nat.add_assoc]

namespace HostBridge

variable {κ : Type} {b b' b'' : HostBridge κ} {l : Link} {payload : String}

theorem flush_queued (b : HostBridge κ) (l : Link) (ps : List String) :
    b.flush (l.queued ps) = { b.flush l with link := (b.flush l).link.queued ps } := by
  by_cases hposted : l.surface.isOpen = true ∨ b.backlog = []
  · have hposted' : (l.queued ps).surface.isOpen = true ∨ b.backlog = [] := hposted
    rw [flush_eq, flush_eq, if_pos hposted, if_pos hposted']
    rfl
  · have hposted' : ¬((l.queued ps).surface.isOpen = true ∨ b.backlog = []) := hposted
    rw [flush_eq, flush_eq, if_neg hposted, if_neg hposted']

/-- The texts that wait behind a text make no difference to it. -/
theorem handlePayload_queued (b : HostBridge κ) (l : Link) (payload : String) (ps : List String) :
    (b.handlePayload (l.queued ps) payload).value =
      { (b.handlePayload l payload).value with
        link := (b.handlePayload l payload).value.link.queued ps } := by
  unfold handlePayload
  cases SurfaceMessage.decode payload with
  | error e => rfl
  | ok m =>
    obtain ⟨version⟩ := m
    simp only [handleReady, Logged.value_bind]
    split
    · rfl
    · split
      · rfl
      · simp only [Logged.value_bind, Logged.value_pure, flush_queued]

/-! ## Pumps -/

theorem pump_queued_nil (b : HostBridge κ) (l : Link) :
    (b.pump (l.queued [])).value = ⟨b, l.queued [], [], .ok 0⟩ := rfl

/-- A pump stops at a text that fails; what waits behind it stays. -/
theorem pump_cons_of_error {ps : List String} {e : ProtocolError}
    (h : (b.handlePayload l payload).value.result = .error e) :
    (b.pump (l.queued (payload :: ps))).value =
      { (b.handlePayload l payload).value with
        link := (b.handlePayload l payload).value.link.queued ps } := by
  have hstep : (b.handlePayload ((l.queued (payload :: ps)).setInbox .host
      { (l.queued (payload :: ps)).host with unread := ps }) payload).value.result = .error e := by
    exact (congrArg HostStep.result (handlePayload_queued b l payload ps)).trans h
  rw [pump, Link.unread_queued, handleAll]
  simp only [Logged.value_bind, hstep, Logged.value_pure]
  exact handlePayload_queued b l payload ps

/-- Otherwise it goes on with what waits. -/
theorem pump_cons_of_ok {ps : List String} {n : Nat}
    (h : (b.handlePayload l payload).value.result = .ok n) :
    (b.pump (l.queued (payload :: ps))).value =
      (HostBridge.pump (b.handlePayload l payload).value.bridge
        ((b.handlePayload l payload).value.link.queued ps)).value.after
          (b.handlePayload l payload).value.fired n := by
  have hsame : (b.handlePayload ((l.queued (payload :: ps)).setInbox .host
      { (l.queued (payload :: ps)).host with unread := ps }) payload).value = _ :=
    handlePayload_queued b l payload ps
  rw [pump, Link.unread_queued, handleAll]
  simp only [Logged.value_bind, hsame, h]
  rfl

/-- A pump over two queues in a row is two pumps in a row, unless the first one fails. -/
theorem pump_append_of_ok {front rest : List String} {n : Nat}
    (hok : (b.pump (l.queued front)).value.result = .ok n) :
    (b.pump (l.queued (front ++ rest))).value =
      (HostBridge.pump (b.pump (l.queued front)).value.bridge
        ((b.pump (l.queued front)).value.link.queued rest)).value.after
          (b.pump (l.queued front)).value.fired n := by
  induction front generalizing b l n with
  | nil =>
    cases hok
    rw [pump_queued_nil, HostStep.after_nil_zero]
    rfl
  | cons p front ih =>
    cases hfirst : (b.handlePayload l p).value.result with
    | error e =>
      rw [pump_cons_of_error hfirst, hfirst] at hok
      cases hok
    | ok m =>
      rw [List.cons_append, pump_cons_of_ok hfirst, pump_cons_of_ok hfirst]
      rw [pump_cons_of_ok hfirst] at hok
      generalize (b.handlePayload l p).value = s at hok
      cases hrest : (s.bridge.pump (s.link.queued front)).value.result with
      | error e =>
        rw [HostStep.after, hrest] at hok
        cases hok
      | ok k =>
        have hn : n = m + k := by
          rw [HostStep.after, hrest] at hok
          cases hok
          rfl
        rw [ih hrest, HostStep.after_after, hn]
        rfl

/-- A text that cannot be decoded is passed over. -/
theorem pump_cons_of_not_decodes (b : HostBridge κ) (l : Link) {ps : List String}
    (h : SurfaceMessage.decodes payload = false) :
    (b.pump (l.queued (payload :: ps))).value = (b.pump (l.queued ps)).value := by
  cases hdecode : SurfaceMessage.decode payload with
  | ok m => simp [SurfaceMessage.decodes, hdecode, Except.isOk, Except.toBool] at h
  | error e =>
    have hstep : (b.handlePayload l payload).value = ⟨b, l, [], .ok 0⟩ := by
      simp [handlePayload, hdecode]
    rw [pump_cons_of_ok (n := 0) (by rw [hstep]), hstep, HostStep.after_nil_zero]

/-- Texts that cannot be decoded change nothing: a pump does the same without them. -/
theorem pump_filter_decodes (b : HostBridge κ) (l : Link) (ps : List String) :
    (b.pump (l.queued (ps.filter SurfaceMessage.decodes))).value =
      { (b.pump (l.queued ps)).value with
        link := (b.pump (l.queued ps)).value.link.queued
          ((b.pump (l.queued ps)).value.link.host.unread.filter SurfaceMessage.decodes) } := by
  induction ps generalizing b l with
  | nil => rfl
  | cons p ps ih =>
    by_cases hp : SurfaceMessage.decodes p = true
    · rw [List.filter_cons_of_pos hp]
      cases hfirst : (b.handlePayload l p).value.result with
      | error e =>
        rw [pump_cons_of_error hfirst, pump_cons_of_error hfirst]
        rfl
      | ok m =>
        rw [pump_cons_of_ok hfirst, pump_cons_of_ok hfirst, ih]
        rfl
    · rw [List.filter_cons_of_neg hp, pump_cons_of_not_decodes b l (by simpa using hp), ih]

/-- An announcement of another version ends a pump and changes nothing else; the texts behind it are
left for the next pump. -/
theorem pump_of_refused {front : List String} (back : List String) {n : Nat} {version : UInt32}
    (hok : (b.pump (l.queued front)).value.result = .ok n)
    (h : SurfaceMessage.decode payload = .ok (.ready version)) (hversion : version ≠ protocolVersion) :
    (b.pump (l.queued (front ++ payload :: back))).value =
      { (b.pump (l.queued front)).value with
        link := (b.pump (l.queued front)).value.link.queued back
        result := .error (.versionMismatch protocolVersion version) } := by
  rw [pump_append_of_ok hok]
  generalize (b.pump (l.queued front)).value = s
  have hstep : (s.bridge.handlePayload s.link payload).value =
      ⟨s.bridge, s.link, [], .error (.versionMismatch protocolVersion version)⟩ := by
    simp [handlePayload, h, handleReady, hversion, Except.map]
  rw [pump_cons_of_error (by rw [hstep]), hstep]
  simp [HostStep.after, Except.map]

theorem pump_append_of_not_decodes (b : HostBridge κ) (l : Link) {front : List String}
    (rest : List String) (hfront : ∀ p ∈ front, SurfaceMessage.decodes p = false) :
    (b.pump (l.queued (front ++ rest))).value = (b.pump (l.queued rest)).value := by
  induction front with
  | nil => rfl
  | cons p front ih =>
    rw [List.cons_append, pump_cons_of_not_decodes b l (hfront p List.mem_cons_self)]
    exact ih fun q hq => hfront q (List.mem_cons_of_mem p hq)

/-- If the messages held back cannot be posted when the surface announces itself, then the pump ends
there, but the bridge is ready and its callbacks have run. -/
theorem pump_of_stranded {front : List String} (back : List String)
    (hfront : ∀ p ∈ front, SurfaceMessage.decodes p = false) (h : Announces payload)
    (hready : b.ready = false) (hgone : l.surface.isOpen = false) (hbacklog : b.backlog ≠ []) :
    (b.pump (l.queued (front ++ payload :: back))).value =
      { bridge := { b with ready := true, waiting := [] }
        link := l.queued back
        fired := b.waiting
        result := .error .disconnected } := by
  have hstep : (b.handlePayload l payload).value =
      ⟨{ b with ready := true, waiting := [] }, l, b.waiting, .error .disconnected⟩ := by
    have hdecode : SurfaceMessage.decode payload = .ok (.ready protocolVersion) := h
    simp [handlePayload, hdecode, handleReady, hready, flush_eq, hgone, hbacklog, Except.map]
  rw [pump_append_of_not_decodes b l _ hfront, pump_cons_of_error (by rw [hstep]), hstep]

end HostBridge
end ModelPreview
