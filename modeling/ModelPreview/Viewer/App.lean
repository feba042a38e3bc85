import ModelPreview.Bridge.Surface
import ModelPreview.Preview.Controller
import ModelPreview.Render.Session
import ModelPreview.Viewer.Config

/-!
# The viewer without its window

The viewer shows the documents of a workspace in one panel, one at a time.  It joins a controller,
whose models come from files, with a render session behind a surface bridge.  What the session draws
with is left open.

Main definitions:

- `App.openPreview`: creates the session and opens the panel.
- `App.pump`: moves messages in both directions.
- `App.cycleDocument`: shows the next document.
- `App.close`: ends session and panel.
-/

namespace ModelPreview

/-- The surface's end of the bridge of the viewer's panel. -/
structure AppSurface where
  /-- The bridge. -/
  bridge : SurfaceBridge
  /-- The link, if the controller does not hold it. -/
  link : Option Link := none

/-- The viewer without its window. -/
structure App (β : Type) where
  /-- The configuration. -/
  config : Config
  /-- Where models and textures are read from. -/
  files : FileSystem
  /-- The addresses of the documents. -/
  documents : List String
  /-- The position of the document shown. -/
  current : Nat := 0
  /-- The controller. -/
  controller : Controller
  /-- The answers that wait for the controller. -/
  backend : FileBackend := {}
  /-- The surface's end of the bridge. -/
  surface : Option AppSurface := none
  /-- The render session. -/
  session : Option (RenderSession β FileTextures) := none

namespace App

/-- The only panel. -/
def panel : Panel := 1

/-- The viewer before anything is shown. -/
def create (config : Config) (workspace : String) (files : FileSystem) : App β where
  config := config
  files := files
  documents := config.documents.map (Path.join workspace)
  controller := { root := workspace }

/-- The document that is to be shown. -/
def document? (a : App β) : Option String := a.documents[a.current]?

/-- What the panel shows. -/
def status? (a : App β) : Option PreviewStatus := a.controller.status? panel

/-- Hand a request to the files. -/
def submit (a : App β) (r : Request) : Logged (App β) := do
  return { a with backend := ← a.backend.request a.files r }

/-! ## The link of the surface -/

/-- The link of the surface: its own, or that of the panel. -/
def link (a : App β) (s : AppSurface) : Link :=
  (s.link.or ((a.controller.sessions.find? panel).map (·.link))).getD .fresh

/-- Replace the surface and its link. -/
def setSurface (a : App β) (s : AppSurface) (l : Link) : App β :=
  if s.link.isSome then { a with surface := some { s with link := some l } }
  else
    let sessions := a.controller.sessions.update panel fun session => { session with link := l }
    { a with surface := some s, controller := { a.controller with sessions := sessions } }

variable [RenderBackend β]

/-! ## Opening -/

/-- Announce the surface if its session is set up, and report its failure otherwise. -/
def announce (a : App β) (surface : AppSurface) (setup : Except RenderError Unit) :
    Logged (App β × Except ProtocolError Unit) := do
  match setup with
  | .ok _ =>
    let (bridge, link, result) := surface.bridge.signalReady (a.link surface)
    return (a.setSurface { surface with bridge := bridge } link, result)
  | .error e =>
    let controller ← a.controller.surfaceFailed panel e.message
    return ({ a with controller := controller, surface := some surface }, .ok ())

/-- Create a session that draws with the given backend and open the panel with a document.  If the
panel was open already the new surface has nobody to talk to. -/
def openPreview (a : App β) (backend : β) (size : Extent) (document : String) :
    Logged (App β × Except ProtocolError Nat) := do
  let session : RenderSession β FileTextures := .create backend ⟨a.files⟩ size
  let o ← a.controller.openPreview panel .fresh document
  let a ← { a with controller := o.controller }.submit o.request
  let link := if o.created then none else some (Link.fresh.close .host)
  let (session, setup) ← session.setup
  let (a, result) ← a.announce ⟨SurfaceBridge.attach {}, link⟩ setup
  return ({ a with session := some session }, result.map fun _ => o.request.id)

/-! ## Working -/

/-- Hand what waits at the surface to a session. -/
def pumpSurface (a : App β)
    (handle : RenderSession β FileTextures → RenderMessage → Logged (RenderSession β FileTextures)) :
    Logged (App β) := do
  match a.surface, a.session with
  | some s, some session =>
    let (link, session, _) ← s.bridge.pump (a.link s) handle session
    return { a.setSurface s link with session := some session }
  | _, _ => return a

/-- Move messages in both directions; models that reach the surface are handed to `handle`. -/
def pump (a : App β)
    (handle : RenderSession β FileTextures → RenderMessage → Logged (RenderSession β FileTextures)) :
    Logged (App β) := do
  let (controller, sent) ← a.controller.pump a.backend.completed
  let a ← { a with controller := controller, backend := {} }.pumpSurface handle
  if 0 < sent then Logged.debug s!"Sent {sent} model(s) to the render surface"
  return a

/-- Show the next document, if there is more than one. -/
def cycleDocument (a : App β) : Logged (App β) := do
  if a.documents.length < 2 then return a
  else
    let a := { a with current := (a.current + 1) % a.documents.length }
    match a.document? with
    | none => return a
    | some document =>
      Logged.info s!"Switching to {document}"
      let (controller, request) ← a.controller.documentChanged panel document
      let a := { a with controller := controller }
      match request with
      | some r => a.submit r
      | none => return a

/-! ## Closing -/

/-- Close the panel and let go of the surface. -/
def closePreview (a : App β) : Logged (App β) := do
  let (controller, _) ← a.controller.closePanel panel
  return { a with controller := controller, surface := none }

/-- End the session; it is returned in its last state. -/
def disposeSession (a : App β) : Logged (App β × Option (RenderSession β FileTextures)) := do
  match a.session with
  | some s => return ({ a with session := none }, some (← s.dispose))
  | none => return (a, none)

/-- End the session and close the panel. -/
def close (a : App β) : Logged (App β × Option (RenderSession β FileTextures)) := do
  let (a, session) ← a.disposeSession
  return (← a.closePreview, session)

end App
end ModelPreview
