import ModelPreview.Bridge.Ends
import ModelPreview.Preview.Controller

/-!
# A controller with its surroundings

The workbench holds a controller together with what surrounds it: the answers of the backend that
wait to be polled and the surfaces of the panels.  While a panel is open its link belongs to the
session; when it is closed the link stays with the surface.

Main definitions:

- `Workbench.step`: one operation, with what it returns, the requests it issues and the models the
  surfaces receive.
-/

namespace ModelPreview

/-- The surface of a panel. -/
structure PanelSurface where
  /-- The form of the surface's end. -/
  state : SurfaceEnd
  /-- The link, once the panel is closed. -/
  link : Option Link := none

/-- A controller with its surroundings. -/
structure Workbench where
  /-- The controller. -/
  controller : Controller
  /-- The surfaces, also of closed panels. -/
  surfaces : Registry PanelSurface := ∅
  /-- The answers that wait to be polled. -/
  completed : List Response := []
  /-- The file system, if requests are answered from it. -/
  files : Option FileSystem := none

/-- An operation on the workbench. -/
inductive WorkbenchOp where
  /-- Open or reveal a panel; a new surface stays bare if `bare` is set. -/
  | openPanel (p : Panel) (uri : String) (bare : Bool)
  /-- Change the document of a panel. -/
  | change (p : Panel) (uri : String)
  /-- Close a panel. -/
  | close (p : Panel)
  /-- Let the controller work. -/
  | pump
  /-- Report that the surface of a panel cannot draw. -/
  | surfaceFailed (p : Panel) (reason : String)
  /-- Let the backend answer. -/
  | respond (r : Response)
  /-- Operate on the surface of a panel. -/
  | surface (p : Panel) (op : SurfaceOp)

/-- What an operation on the workbench returns. -/
inductive WorkbenchResult where
  /-- A panel was opened or revealed. -/
  | opened (request : Nat) (created : Bool)
  /-- The number of the request that was issued, if any. -/
  | request (id : Option Nat)
  /-- What an operation on a surface returns, or something of the same kinds. -/
  | outcome (o : Outcome)

/-- What an operation on the workbench leads to. -/
structure WorkbenchOutcome where
  /-- The workbench afterwards. -/
  state : Workbench
  /-- What is returned. -/
  result : WorkbenchResult
  /-- The requests given to the backend. -/
  requests : List Request := []
  /-- The models received by surfaces. -/
  received : List (Panel × Model) := []

namespace Workbench

/-- Hand a request to the backend. -/
def submit (w : Workbench) (r : Request) : Logged Workbench := do
  match w.files with
  | none => return w
  | some fs =>
    let b ← (FileBackend.mk w.completed).request fs r
    return { w with completed := b.completed }

/-- The link of a panel: that of its session, or the one left to its surface. -/
def link? (w : Workbench) (p : Panel) (s : PanelSurface) : Option Link :=
  s.link.or ((w.controller.sessions.find? p).map (·.link))

/-- Replace the link of a panel. -/
def setLink (w : Workbench) (p : Panel) (s : PanelSurface) (l : Link) : Workbench :=
  if s.link.isSome then { w with surfaces := w.surfaces.insert p { s with link := some l } }
  else { w with
    surfaces := w.surfaces.insert p s
    controller := { w.controller with
      sessions := w.controller.sessions.update p fun session => { session with link := l } } }

/-- Operate on the surface of a panel. -/
def surfaceStep (w : Workbench) (p : Panel) (op : SurfaceOp) : Logged WorkbenchOutcome := do
  match w.surfaces.find? p with
  | none => return { state := w, result := .outcome .refused }
  | some s =>
    let r ← s.state.step ((w.link? p s).getD .fresh) op
    return {
      state := w.setLink p { s with state := r.state } r.link
      result := .outcome r.outcome
      received := r.received.map (p, ·) }

/-- One operation. -/
def step (w : Workbench) : WorkbenchOp → Logged WorkbenchOutcome
  | .openPanel p uri bare => do
    let o ← w.controller.openPreview p .fresh uri
    let surfaces :=
      if o.created then
        w.surfaces.insert p { state := if bare then .bare else .bridge (SurfaceBridge.attach {}) }
      else w.surfaces
    let w ← { w with controller := o.controller, surfaces := surfaces }.submit o.request
    return { state := w, result := .opened o.request.id o.created, requests := [o.request] }
  | .change p uri => do
    let (c, r) ← w.controller.documentChanged p uri
    let w := { w with controller := c }
    match r with
    | none => return { state := w, result := .request none }
    | some r => return { state := ← w.submit r, result := .request (some r.id), requests := [r] }
  | .close p => do
    let (c, link) ← w.controller.closePanel p
    let surfaces :=
      match link with
      | some l => w.surfaces.update p fun s => { s with link := some l }
      | none => w.surfaces
    return { state := { w with controller := c, surfaces := surfaces },
             result := .outcome (.flag link.isSome) }
  | .pump => do
    let (c, n) ← w.controller.pump w.completed
    return { state := { w with controller := c, completed := [] }, result := .outcome (.count n) }
  | .surfaceFailed p reason => do
    let c ← w.controller.surfaceFailed p reason
    return { state := { w with controller := c }, result := .outcome .done }
  | .respond r =>
    return { state := { w with completed := w.completed ++ [r] }, result := .outcome .done }
  | .surface p op => w.surfaceStep p op

end Workbench
end ModelPreview
