import ModelPreview.Bridge.Host
import ModelPreview.Preview.Registry

/-!
# The preview of one panel

A session keeps the link to its surface, the number of the latest request, the model that waits for
the surface, and the status shown to the user.  Once the surface has failed the status stays.

Main definitions:

- `PreviewStatus`: what a panel shows.
- `PreviewSession.flush`: sends the model that waits.
- `PreviewSession.handshake`: takes note of what the surface has posted.
-/

namespace ModelPreview

/-- What a panel shows. -/
inductive PreviewStatus where
  /-- There is a model, but the surface is not ready. -/
  | waiting
  /-- A request is on its way. -/
  | loading
  /-- The model has been sent. -/
  | showing
  /-- There is nothing to show, for a reason. -/
  | unavailable (reason : String)
  deriving DecidableEq, Repr

namespace PreviewStatus

/-- The name of a status. -/
def name : PreviewStatus → String
  | waiting => "Waiting"
  | loading => "Loading"
  | showing => "Showing"
  | unavailable _ => "Unavailable"

/-- A status as the user reads it. -/
def text : PreviewStatus → String
  | waiting => "waiting for renderer"
  | loading => "loading"
  | showing => "showing"
  | unavailable reason => s!"preview unavailable: {reason}"

end PreviewStatus

/-- The preview of one panel. -/
structure PreviewSession where
  /-- The link to the surface. -/
  link : Link
  /-- This end of the bridge to the surface. -/
  bridge : HostBridge Empty := {}
  /-- The document shown. -/
  document : Option String := none
  /-- The number of the latest request, as long as it is not answered. -/
  latestRequest : Option Nat := none
  /-- The model that waits for the surface. -/
  pendingModel : Option Model := none
  /-- What the panel shows. -/
  status : PreviewStatus := .loading
  /-- Set once the surface can never draw. -/
  surfaceError : Option String := none

namespace PreviewSession

/-- Change the status, unless the surface has failed for good. -/
def setStatus (s : PreviewSession) (status : PreviewStatus) : PreviewSession :=
  if s.surfaceError.isNone then { s with status := status } else s

/-- The surface has failed for good. -/
def failSurface (s : PreviewSession) (reason : String) : PreviewSession :=
  { s with
    status := .unavailable reason
    surfaceError := some reason
    pendingModel := none }

/-- Start waiting for a request about a document. -/
def expect (s : PreviewSession) (r : Nat) (document : String) : PreviewSession :=
  { s with latestRequest := some r, document := some document }.setStatus .loading

/-- Send the model that waits, if the surface is ready; tells whether it was sent. -/
def flush (s : PreviewSession) (p : Panel) : Logged (PreviewSession × Bool) :=
  match s.pendingModel with
  | none => return (s, false)
  | some model =>
    if !s.bridge.ready || s.surfaceError.isSome then return (s, false)
    else do
      let step ← s.bridge.send s.link (.renderModel model)
      let s := { s with bridge := step.bridge, link := step.link, pendingModel := none }
      match step.result with
      | .ok _ => return ({ s with status := .showing }, true)
      | .error e =>
        Logged.error s!"{p.label}: failed to send model: {e.message}"
        return ({ s with status := .unavailable e.message }, false)

/-- Handle what the surface has posted and send the model that waits. -/
def handshake (p : Panel) (s : PreviewSession) : Logged (PreviewSession × Bool) := do
  let step ← s.bridge.pump s.link
  let s := { s with bridge := step.bridge, link := step.link }
  match step.result with
  | .ok _ => s.flush p
  | .error (.versionMismatch expected found) =>
    (s.failSurface s!"renderer protocol {found} (expected {expected})").flush p
  | .error e => do
    Logged.error s!"{p.label}: bridge error: {e.message}"
    s.flush p

end PreviewSession
end ModelPreview
