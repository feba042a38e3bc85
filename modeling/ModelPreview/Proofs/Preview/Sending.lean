import Mathlib
import ModelPreview.Preview.Session
import ModelPreview.Proofs.Bridge.Hearing

/-!
# How a session sends its model

A session never leaves a message in the backlog of its bridge while the surface is there
(`PreviewSession.Drained`), so all that a session posts is the model it holds.

Main results:

- `PreviewSession.flush_value`: sending the held model in closed form.
- `PreviewSession.handshake_value`: a handshake is a change of the near side of the link followed by
  sending.
-/

namespace ModelPreview

/-! ## Drained bridges -/

namespace HostBridge

variable {κ : Type}

/-- Either nothing waits, or nothing can be posted any more. -/
def Drained (b : HostBridge κ) (l : Link) : Prop := b.backlog = [] ∨ l.surface.isOpen = false

/-- A text of the surface leaves a drained backlog and the link alone. -/
theorem Hears.of_drained {b : HostBridge κ} {l : Link} {payload : String} {s : HostStep κ Nat}
    (h : b.Hears l payload s) (hdrained : b.Drained l) :
    s.bridge.backlog = b.backlog ∧ s.link = l := by
  cases h with
  | skipped h => exact ⟨rfl, rfl⟩
  | refused h hversion => exact ⟨rfl, rfl⟩
  | repeated h hready => exact ⟨rfl, rfl⟩
  | released h hready hposted =>
    -- The surface is there or nothing waits, so nothing waits.
    have hnil : b.backlog = [] := by
      rcases hdrained with hnil | hgone
      · exact hnil
      · exact hposted.resolve_left (by simp [hgone])
    simp [hnil]
  | stranded h hready hgone hbacklog => exact ⟨rfl, rfl⟩

/-- Handling what the surface has posted leaves a drained backlog and the far side of the link
alone. -/
theorem handleAll_of_drained {b : HostBridge κ} {l : Link} (h : b.Drained l)
    (payloads : List String) :
    (b.handleAll l payloads).value.bridge.backlog = b.backlog ∧
      (b.handleAll l payloads).value.link.surface = l.surface := by
  induction payloads generalizing b l with
  | nil => exact ⟨rfl, rfl⟩
  | cons p ps ih =>
    have hpayload :=
      (b.hears_handlePayload (l.setInbox .host { l.host with unread := ps }) p).of_drained h
    simp only [handleAll, Logged.value_bind]
    generalize (b.handlePayload (l.setInbox .host { l.host with unread := ps }) p).value = step
      at hpayload
    obtain ⟨hbacklog, hlink⟩ := hpayload
    have hsurface : step.link.surface = l.surface := by
      rw [hlink]
      rfl
    cases step.result with
    | error e => exact ⟨hbacklog, hsurface⟩
    | ok n =>
      have hdrained : step.bridge.Drained step.link := by
        rcases h with h | h
        · exact .inl (hbacklog.trans h)
        · exact .inr (by rw [hsurface, h])
      have hrest := ih hdrained
      exact ⟨hrest.1.trans hbacklog, hrest.2.trans hsurface⟩

end HostBridge

namespace PreviewSession

/-! ## Sending the held model -/

/-- A session leaves nothing in its backlog that could be posted. -/
def Drained (s : PreviewSession) : Prop := s.bridge.Drained s.link

/-- The model that a session can send right now: it holds one, the surface has announced itself and
has not failed. -/
def sendable? (s : PreviewSession) : Option Model :=
  if s.bridge.ready && s.surfaceError.isNone then s.pendingModel else none

/-- The session after sending: the model is on its way if the surface is still there, and otherwise
stays in the backlog for good. -/
def afterSending (s : PreviewSession) (m : Model) : PreviewSession :=
  let ms := s.bridge.backlog ++ [.renderModel m]
  if s.link.surface.isOpen then
    { s with
      bridge := { s.bridge with backlog := [] }
      link := s.link.deliver (ms.map RenderMessage.encode)
      pendingModel := none
      status := .showing }
  else
    { s with
      bridge := { s.bridge with backlog := ms }
      pendingModel := none
      status := .unavailable ProtocolError.disconnected.message }

theorem flush_value (s : PreviewSession) (p : Panel) :
    (s.flush p).value =
      match s.sendable? with
      | none => (s, false)
      | some m => (s.afterSending m, s.link.surface.isOpen) := by
  unfold flush sendable?
  cases hpending : s.pendingModel with
  | none => simp
  | some m =>
    by_cases hready : s.bridge.ready = true
    · cases herr : s.surfaceError with
      | some reason => simp [hready]
      | none =>
        by_cases hopen : s.link.surface.isOpen = true
        · simp [HostBridge.send, HostBridge.flush, HostBridge.postAll_eq, hready, hopen, herr,
            afterSending]
        · simp [HostBridge.send, HostBridge.flush, HostBridge.postAll_eq, hready, hopen, herr,
            afterSending]
    · simp [hready]

theorem sendable?_eq_some_iff {s : PreviewSession} {m : Model} :
    s.sendable? = some m ↔
      s.pendingModel = some m ∧ s.bridge.ready = true ∧ s.surfaceError = none := by
  unfold sendable?
  split
  · rename_i h
    simp only [Bool.and_eq_true, Option.isNone_iff_eq_none] at h
    simp [h]
  · rename_i h
    simp only [Bool.and_eq_true, Option.isNone_iff_eq_none] at h
    simp only [reduceCtorEq, false_iff]
    rintro ⟨-, hready, herr⟩
    exact h ⟨hready, herr⟩

@[simp]
theorem latestRequest_afterSending (s : PreviewSession) (m : Model) :
    (s.afterSending m).latestRequest = s.latestRequest := by
  unfold afterSending
  split <;> rfl

@[simp]
theorem pendingModel_afterSending (s : PreviewSession) (m : Model) :
    (s.afterSending m).pendingModel = none := by
  unfold afterSending
  split <;> rfl

theorem drained_afterSending (s : PreviewSession) (m : Model) : (s.afterSending m).Drained := by
  unfold afterSending Drained HostBridge.Drained
  split
  · exact .inl rfl
  · rename_i hopen
    exact .inr (by simpa using hopen)

/-- The texts that a session posts when it sends. -/
def sentTexts (s : PreviewSession) : List String :=
  match s.sendable? with
  | some m => if s.link.surface.isOpen then [(RenderMessage.renderModel m).encode] else []
  | none => []

/-- A drained session posts the model it holds and nothing else. -/
theorem unread_flush {s : PreviewSession} (h : s.Drained) (p : Panel) :
    (s.flush p).value.1.link.surface.unread = s.link.surface.unread ++ s.sentTexts := by
  rw [flush_value, sentTexts]
  cases s.sendable? with
  | none => simp
  | some m =>
    by_cases hopen : s.link.surface.isOpen = true
    · have hnil : s.bridge.backlog = [] := h.resolve_right (by simp [hopen])
      simp [afterSending, hopen, hnil, Link.unread_deliver]
    · simp [afterSending, hopen]

/-- Sending changes only the bridge, what lies at the surface, the model held and the status. -/
theorem flush_eq (s : PreviewSession) (p : Panel) :
    ∃ bridge surface pending status, (s.flush p).value.1 = { s with
      bridge := bridge
      link := s.link.setInbox .surface surface
      pendingModel := pending
      status := status } := by
  rw [flush_value]
  split
  · exact ⟨s.bridge, s.link.surface, s.pendingModel, s.status, rfl⟩
  · rename_i m _
    by_cases hopen : s.link.surface.isOpen = true
    · simp only [afterSending, hopen, if_true]
      exact ⟨_, _, _, _, rfl⟩
    · simp only [afterSending, hopen]
      exact ⟨_, s.link.surface, _, _, rfl⟩

@[simp]
theorem latestRequest_flush (s : PreviewSession) (p : Panel) :
    (s.flush p).value.1.latestRequest = s.latestRequest := by
  rw [flush_value]
  split <;> simp

theorem drained_flush {s : PreviewSession} (h : s.Drained) (p : Panel) :
    (s.flush p).value.1.Drained := by
  rw [flush_value]
  split
  · exact h
  · exact drained_afterSending s _

/-- Sending leaves a session with the model it held or with none. -/
theorem pendingModel_flush {s : PreviewSession} {p : Panel} {m : Model}
    (h : (s.flush p).value.1.pendingModel = some m) : s.pendingModel = some m := by
  rw [flush_value] at h
  split at h
  · exact h
  · simp at h

/-! ## Handshakes -/

/-- The session after it has taken note of what the surface has posted, before it sends. -/
def noted (s : PreviewSession) : PreviewSession :=
  let step := (s.bridge.pump s.link).value
  let s := { s with bridge := step.bridge, link := step.link }
  match step.result with
  | .error (.versionMismatch expected found) =>
    s.failSurface s!"renderer protocol {found} (expected {expected})"
  | _ => s

/-- A handshake takes note of what the surface has posted and then sends. -/
theorem handshake_value (p : Panel) (s : PreviewSession) :
    (s.handshake p).value = (s.noted.flush p).value := by
  unfold handshake noted
  simp only [Logged.value_bind]
  cases (s.bridge.pump s.link).value.result with
  | ok n => rfl
  | error e => cases e <;> rfl

/-- Taking note of posts either fails the surface or changes only the bridge and the link. -/
theorem noted_eq (s : PreviewSession) :
    (∃ reason, s.noted = { s with
      bridge := s.noted.bridge, link := s.noted.link }.failSurface reason) ∨
      s.noted = { s with bridge := s.noted.bridge, link := s.noted.link } := by
  unfold noted
  dsimp only
  split
  · exact Or.inl ⟨_, rfl⟩
  · exact Or.inr rfl

@[simp]
theorem latestRequest_noted (s : PreviewSession) : s.noted.latestRequest = s.latestRequest := by
  unfold noted
  dsimp only
  split <;> rfl

/-- Taking note of posts changes the held model only by dropping it. -/
theorem pendingModel_noted {s : PreviewSession} {m : Model} (h : s.noted.pendingModel = some m) :
    s.pendingModel = some m := by
  unfold noted at h
  dsimp only at h
  split at h
  · simp [failSurface] at h
  · exact h

theorem noted_of_drained {s : PreviewSession} (h : s.Drained) :
    s.noted.bridge.backlog = s.bridge.backlog ∧ s.noted.link.surface = s.link.surface := by
  have hpump := HostBridge.handleAll_of_drained h s.link.host.unread
  unfold noted
  dsimp only
  split
  · exact hpump
  · exact hpump

theorem drained_noted {s : PreviewSession} (h : s.Drained) : s.noted.Drained := by
  obtain ⟨hbacklog, hsurface⟩ := noted_of_drained h
  rcases h with h | h
  · exact .inl (hbacklog.trans h)
  · exact .inr (by rw [hsurface, h])

end PreviewSession
end ModelPreview
