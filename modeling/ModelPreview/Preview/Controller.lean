import ModelPreview.Preview.Backend
import ModelPreview.Preview.Session
import ModelPreview.Texture.Resolution

/-!
# The preview controller

The controller asks for the models of documents and sends them to the surfaces of the panels.  Only
the answer to the latest request of a panel counts; answers that come too late are dropped.

Main definitions:

- `Controller.openPreview`, `Controller.documentChanged`: issue a request.
- `Controller.closePanel`, `Controller.surfaceFailed`: the end of a panel or of its surface.
- `Controller.pump`: handles what the surfaces have posted and the answers that have come in.
-/

namespace ModelPreview

/-- The controller. -/
structure Controller where
  /-- The directory that textures are looked up in. -/
  root : String
  /-- The sessions of the open panels. -/
  sessions : Registry PreviewSession := ∅
  /-- The panels of the requests that are not answered. -/
  inFlight : SortedMap Nat Panel := ∅
  /-- The number of the next request.  A controller is assumed to issue fewer than `2 ^ 64` requests,
  so that numbers never start again. -/
  nextRequest : Nat := 1

namespace Controller

/-- The status of a panel. -/
def status? (c : Controller) (p : Panel) : Option PreviewStatus := (c.sessions.find? p).map (·.status)

/-- The document of a panel. -/
def document? (c : Controller) (p : Panel) : Option String :=
  (c.sessions.find? p).bind (·.document)

/-- Issue a request for a panel; it replaces an earlier one. -/
def request (c : Controller) (p : Panel) (uri : String) : Controller × Request :=
  let id := c.nextRequest
  let previous := (c.sessions.find? p).bind (·.latestRequest)
  let inFlight :=
    match previous with
    | some old => c.inFlight.erase old
    | none => c.inFlight
  ({ c with
      sessions := c.sessions.update p (·.expect id uri)
      inFlight := inFlight.insert id p
      nextRequest := id + 1 }, ⟨id, uri⟩)

/-- What opening a preview leads to. -/
structure Opened where
  /-- The controller afterwards. -/
  controller : Controller
  /-- The request for the backend. -/
  request : Request
  /-- Whether the panel was new; only then is the link used. -/
  created : Bool

/-- Open the preview of a panel over a link, or reveal the one it has, and show a document. -/
def openPreview (c : Controller) (p : Panel) (link : Link) (uri : String) : Logged Opened := do
  let (sessions, _, created) := c.sessions.openOrReveal p { link := link }
  if created then Logged.info s!"Opened preview {p.label}"
  let (c, r) := { c with sessions := sessions }.request p uri
  return ⟨c, r, created⟩

/-- Show another document in an open preview. -/
def documentChanged (c : Controller) (p : Panel) (uri : String) :
    Logged (Controller × Option Request) := do
  if c.sessions.contains p then
    let (c, r) := c.request p uri
    return (c, some r)
  else
    Logged.debug s!"No preview open for {p.label}, ignoring document change"
    return (c, none)

/-- Close a panel and forget its requests; the link is left to the surface. -/
def closePanel (c : Controller) (p : Panel) : Logged (Controller × Option Link) := do
  let (sessions, session) := c.sessions.dispose p
  let c := { c with sessions := sessions, inFlight := c.inFlight.filter fun _ owner => owner ≠ p }
  match session with
  | some s => do
    Logged.info s!"Closed preview {p.label}"
    return (c, some (s.link.close .host))
  | none => return (c, none)

/-- The surface of a panel cannot draw. -/
def surfaceFailed (c : Controller) (p : Panel) (reason : String) : Logged Controller := do
  if c.sessions.contains p then
    Logged.warn s!"{p.label}: render surface unavailable: {reason}"
    return { c with sessions := c.sessions.update p (·.failSurface reason) }
  else return c

/-- Use an answer in the session it belongs to; tells whether a model was sent. -/
def applyResponse (root : String) (p : Panel) (s : PreviewSession) (r : Response) :
    Logged (PreviewSession × Bool) := do
  let s := { s with latestRequest := none }
  match r.result with
  | .ok model =>
    let resolved ← model.resolve root
    if 0 < resolved.dropped then
      Logged.debug s!"{p.label}: dropped {resolved.dropped} unresolvable faces"
    if s.surfaceError.isSome then
      Logged.debug s!"{p.label}: surface unavailable, not holding response #{r.id}"
      return (s, false)
    else
      let holding := { s with pendingModel := some resolved.model }
      (holding.setStatus .waiting).flush p
  | .error e =>
    Logged.warn s!"{p.label}: model request failed: {e.message}"
    return ({ s with pendingModel := none }.setStatus (.unavailable e.message), false)

/-- Handle one answer; counts the models sent. -/
def handleResponse (c : Controller) (r : Response) : Logged (Controller × Nat) := do
  match c.inFlight.find? r.id with
  | none => do
    Logged.debug s!"Discarding response #{r.id}: superseded or preview closed"
    return (c, 0)
  | some p =>
    let c := { c with inFlight := c.inFlight.erase r.id }
    match c.sessions.find? p with
    | none => return (c, 0)
    | some s =>
      if s.latestRequest = some r.id then
        let (s, sent) ← applyResponse c.root p s r
        return ({ c with sessions := c.sessions.insert p s }, if sent then 1 else 0)
      else
        Logged.debug s!"{p.label}: discarding stale response #{r.id}"
        return (c, 0)

/-- Handle answers in order; counts the models sent. -/
def handleResponses (c : Controller) : List Response → Logged (Controller × Nat)
  | [] => return (c, 0)
  | r :: rs => do
    let (c, n) ← c.handleResponse r
    let (c, m) ← c.handleResponses rs
    return (c, n + m)

/-- Handle what the surfaces have posted, panel by panel; counts the models sent. -/
def handshakes (c : Controller) : Logged (Controller × Nat) :=
  let steps := c.sessions.mapValues PreviewSession.handshake
  { value := ({ c with sessions := steps.mapValues fun _ step => step.value.1 },
      steps.entries.countP (·.2.value.2))
    log := steps.entries.flatMap (·.2.log) }

/-- Handle what the surfaces have posted, then the answers that have come in; counts the models
sent. -/
def pump (c : Controller) (responses : List Response) : Logged (Controller × Nat) := do
  let (c, n) ← c.handshakes
  let (c, m) ← c.handleResponses responses
  return (c, n + m)

end Controller
end ModelPreview
