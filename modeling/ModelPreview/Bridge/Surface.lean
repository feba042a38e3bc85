import ModelPreview.Bridge.Link
import ModelPreview.Bridge.Message
import ModelPreview.Log

/-!
# The surface's end of the bridge

The surface announces itself once and hands incoming messages to its handler.  Without a handler
nothing is taken from the inbox; payloads that cannot be used are logged and dropped.
-/

namespace ModelPreview

/-- The surface's end of the bridge. -/
structure SurfaceBridge where
  /-- Whether the surface has announced itself. -/
  readySent : Bool := false
  /-- Whether a handler is installed. -/
  attached : Bool := false
  deriving DecidableEq, Repr

namespace SurfaceBridge

/-- Announce the surface; only the first time something is posted, and a failed attempt can be
repeated. -/
def signalReady (s : SurfaceBridge) (l : Link) :
    SurfaceBridge × Link × Except ProtocolError Unit :=
  if s.readySent then (s, l, .ok ())
  else
    match l.post .surface SurfaceMessage.current.encode with
    | some l => ({ s with readySent := true }, l, .ok ())
    | none => (s, l, .error .disconnected)

/-- Install a handler. -/
def attach (s : SurfaceBridge) : SurfaceBridge := { s with attached := true }

/-- Hand payloads to a handler in order; counts the messages delivered. -/
def deliverAll (handle : σ → RenderMessage → Logged σ) (st : σ) : List String → Logged (σ × Nat)
  | [] => return (st, 0)
  | p :: ps => do
    match RenderMessage.decode p with
    | .ok m =>
      let st ← handle st m
      let (st, n) ← deliverAll handle st ps
      return (st, n + 1)
    | .error e =>
      Logged.error s!"Rejected render message: {e.message}"
      deliverAll handle st ps

/-- Deliver everything that waits to the handler, whose state is `st`. -/
def pump (s : SurfaceBridge) (l : Link) (handle : σ → RenderMessage → Logged σ) (st : σ) :
    Logged (Link × σ × Nat) :=
  if s.attached then do
    let (st, n) ← deliverAll handle st l.surface.unread
    return (l.setInbox .surface { l.surface with unread := [] }, st, n)
  else return (l, st, 0)

end SurfaceBridge
end ModelPreview
