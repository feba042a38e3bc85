import Mathlib
import ModelPreview.Proofs.Bridge.Transit

/-!
# One text at the controller's end

The controller's end takes the texts of its inbox one by one.  A text either cannot be decoded or is an
announcement, and what an announcement does depends on its version, on whether it is the first one and
on whether what was held back can be posted.  These cases are told apart here once; what is said about
single texts elsewhere goes through them.

Main definitions:

- `Announces`: a text announces a surface of the current version.
- `HostBridge.Hears`: all that one text can do to the controller's end.

Main results:

- `HostBridge.flush_eq`: posting what was held back, in closed form.
- `HostBridge.hears_handlePayload`: there are no other cases.
-/

namespace ModelPreview

/-- A text announces a surface that speaks the current version. -/
def Announces (payload : String) : Prop := SurfaceMessage.decode payload = .ok .current

namespace HostBridge

variable {κ : Type} {b : HostBridge κ} {l : Link} {payload : String}

/-- Flushing posts everything, or nothing if the surface is gone. -/
theorem flush_eq (b : HostBridge κ) (l : Link) :
    b.flush l = if l.surface.isOpen = true ∨ b.backlog = [] then
        { bridge := { b with backlog := [] }, link := l.deliver (b.backlog.map RenderMessage.encode),
          result := .ok () }
      else { bridge := b, link := l, result := .error .disconnected } := by
  by_cases h : l.surface.isOpen = true ∨ b.backlog = []
  · rw [flush, postAll_eq, if_pos h, if_pos h]
  · rw [flush, postAll_eq, if_neg h, if_neg h]

/-- All that one text can do to the controller's end. -/
inductive Hears (b : HostBridge κ) (l : Link) (payload : String) : HostStep κ Nat → Prop where
  /-- It cannot be decoded. -/
  | skipped {e : ProtocolError} (h : SurfaceMessage.decode payload = .error e) :
    Hears b l payload ⟨b, l, [], .ok 0⟩
  /-- It announces another version. -/
  | refused {version : UInt32} (h : SurfaceMessage.decode payload = .ok (.ready version))
    (hversion : version ≠ protocolVersion) :
    Hears b l payload ⟨b, l, [], .error (.versionMismatch protocolVersion version)⟩
  /-- It repeats the announcement. -/
  | repeated (h : Announces payload) (hready : b.ready = true) : Hears b l payload ⟨b, l, [], .ok 1⟩
  /-- It is the first announcement, and what was held back is posted. -/
  | released (h : Announces payload) (hready : b.ready = false)
    (hposted : l.surface.isOpen = true ∨ b.backlog = []) :
    Hears b l payload
      ⟨{ ready := true }, l.deliver (b.backlog.map RenderMessage.encode), b.waiting, .ok 1⟩
  /-- It is the first announcement, but the surface has gone and leaves messages behind. -/
  | stranded (h : Announces payload) (hready : b.ready = false) (hgone : l.surface.isOpen = false)
    (hbacklog : b.backlog ≠ []) :
    Hears b l payload
      ⟨{ b with ready := true, waiting := [] }, l, b.waiting, .error .disconnected⟩

theorem hears_handlePayload (b : HostBridge κ) (l : Link) (payload : String) :
    b.Hears l payload (b.handlePayload l payload).value := by
  unfold handlePayload
  cases hdecode : SurfaceMessage.decode payload with
  | error e => exact .skipped hdecode
  | ok m =>
    obtain ⟨version⟩ := m
    simp only [handleReady, Logged.value_bind]
    by_cases hversion : version = protocolVersion
    · subst hversion
      rw [if_neg (by simp)]
      by_cases hready : b.ready = true
      · rw [if_pos hready]
        exact .repeated hdecode hready
      · rw [if_neg hready]
        have hwaits : b.ready = false := by simpa using hready
        by_cases hposted : l.surface.isOpen = true ∨ b.backlog = []
        · have hstep := Hears.released (b := b) hdecode hwaits hposted
          simpa [flush_eq, hposted, Except.map] using hstep
        · obtain ⟨hgone, hbacklog⟩ := not_or.1 hposted
          have hstep := Hears.stranded (b := b) hdecode hwaits (by simpa using hgone) hbacklog
          simpa [flush_eq, hposted, Except.map] using hstep
    · rw [if_pos hversion]
      exact .refused hdecode hversion

/-- The texts that wait behind a text stay as they are. -/
theorem Hears.unread {s : HostStep κ Nat} (h : b.Hears l payload s) :
    s.link.host.unread = l.host.unread := by
  cases h <;> rfl

theorem Hears.ready_iff {s : HostStep κ Nat} (h : b.Hears l payload s) :
    s.bridge.ready = true ↔ b.ready = true ∨ Announces payload := by
  cases h with
  | skipped h => simp [Announces, h]
  | refused h hversion => simp [Announces, h, SurfaceMessage.current, hversion]
  | repeated h hready => simp [hready]
  | released h => simp [h]
  | stranded h => simp [h]

end HostBridge
end ModelPreview
