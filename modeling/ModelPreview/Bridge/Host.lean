import ModelPreview.Bridge.Link
import ModelPreview.Bridge.Message
import ModelPreview.Log

/-!
# The controller's end of the bridge

Messages are held back until the surface has announced itself and then posted in the order in which
they were sent.  A message that cannot be posted stays where it is.  Callbacks that wait for the
surface are represented by tags; each operation reports the tags that fire in it.

Main definitions:

- `HostBridge.send`, `HostBridge.onReady`, `HostBridge.pump`: the operations.
-/

namespace ModelPreview

/-- The controller's end of the bridge. -/
structure HostBridge (κ : Type) where
  /-- Whether the surface has announced itself. -/
  ready : Bool := false
  /-- The messages that have not been posted, oldest first. -/
  backlog : List RenderMessage := []
  /-- The callbacks that wait for the surface. -/
  waiting : List κ := []

/-- The outcome of an operation of the controller's end. -/
structure HostStep (κ α : Type) where
  /-- The bridge afterwards. -/
  bridge : HostBridge κ
  /-- The link afterwards. -/
  link : Link
  /-- The callbacks that ran. -/
  fired : List κ := []
  /-- What is returned. -/
  result : Except ProtocolError α

namespace HostBridge

/-- The number of messages that wait. -/
def pending (b : HostBridge κ) : Nat := b.backlog.length

/-- Post messages in order until one cannot be posted; the rest is returned. -/
def postAll (l : Link) : List RenderMessage → List RenderMessage × Link × Except ProtocolError Unit
  | [] => ([], l, .ok ())
  | m :: ms =>
    match l.post .host m.encode with
    | some l => postAll l ms
    | none => (m :: ms, l, .error .disconnected)

/-- Post the backlog. -/
def flush (b : HostBridge κ) (l : Link) : HostStep κ Unit :=
  let (rest, l, result) := postAll l b.backlog
  { bridge := { b with backlog := rest }, link := l, result := result }

/-- Send a message; before the surface has announced itself it is only put into the backlog. -/
def send (b : HostBridge κ) (l : Link) (m : RenderMessage) : Logged (HostStep κ Unit) := do
  let b := { b with backlog := b.backlog ++ [m] }
  if b.ready then return b.flush l
  else
    Logged.debug "Render surface not ready, queueing message"
    return { bridge := b, link := l, result := .ok () }

/-- Run a callback once the surface has announced itself, at once if it already has. -/
def onReady (b : HostBridge κ) (l : Link) (k : κ) : HostStep κ Unit :=
  if b.ready then { bridge := b, link := l, fired := [k], result := .ok () }
  else { bridge := { b with waiting := b.waiting ++ [k] }, link := l, result := .ok () }

/-- Take note of a surface that announces itself. -/
def handleReady (b : HostBridge κ) (l : Link) (version : UInt32) : Logged (HostStep κ Unit) := do
  if version ≠ protocolVersion then
    Logged.error s!"Render surface reported protocol {version}, expected {protocolVersion}"
    return { bridge := b, link := l, result := .error (.versionMismatch protocolVersion version) }
  else if b.ready then
    Logged.warn "Duplicate ready signal ignored"
    return { bridge := b, link := l, result := .ok () }
  else
    Logged.info s!"Render surface ready (protocol {version})"
    let step := { b with ready := true, waiting := [] }.flush l
    return { step with fired := b.waiting }

/-- Handle one payload, already taken from the inbox; counts the messages understood. -/
def handlePayload (b : HostBridge κ) (l : Link) (payload : String) :
    Logged (HostStep κ Nat) := do
  match SurfaceMessage.decode payload with
  | .ok (.ready version) =>
    let step ← b.handleReady l version
    return { step with result := step.result.map fun _ => 1 }
  | .error e =>
    Logged.error s!"Rejected surface message: {e.message}"
    return { bridge := b, link := l, result := .ok 0 }

/-- Handle payloads in order until one fails; those behind it stay in the inbox. -/
def handleAll (b : HostBridge κ) (l : Link) : List String → Logged (HostStep κ Nat)
  | [] => return { bridge := b, link := l, result := .ok 0 }
  | p :: ps => do
    let step ← b.handlePayload (l.setInbox .host { l.host with unread := ps }) p
    match step.result with
    | .error _ => return step
    | .ok n =>
      let rest ← step.bridge.handleAll step.link ps
      return { rest with fired := step.fired ++ rest.fired, result := rest.result.map (n + ·) }

/-- Handle everything the surface has posted. -/
def pump (b : HostBridge κ) (l : Link) : Logged (HostStep κ Nat) := b.handleAll l l.host.unread

end HostBridge
end ModelPreview
