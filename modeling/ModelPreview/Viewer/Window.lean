import ModelPreview.Gpu.Backend
import ModelPreview.Viewer.App
import ModelPreview.Viewer.Startup

/-!
# The window of the viewer

The viewer reacts to the events of its window.  Dragging with the left button turns the camera, the
wheel moves it, and the tabulator key shows the next document.  Whenever all events are handled,
messages are moved and the title is brought up to date.

Main definitions:

- `Window.handle`: what an event does.
- `Window.deliver`: an event and, unless the viewer ends, the work after it.
- `Viewer.run`: the whole run of the viewer over a list of events.
-/

namespace ModelPreview

/-- A call to the window system or to the graphics device. -/
inductive ScreenCall where
  /-- Sleep until there are events. -/
  | waitForEvents
  /-- Create the window. -/
  | createWindow (title : String) (size : Extent)
  /-- Change the title. -/
  | setTitle (title : String)
  /-- Ask for an event to redraw the window. -/
  | requestRedraw
  /-- End the viewer. -/
  | exit
  /-- A call to the graphics device. -/
  | gpu (c : Gpu.Call)

/-- What the surroundings of the viewer answer. -/
structure Desktop where
  /-- The graphics device. -/
  gpu : Gpu.Environment
  /-- Why there is no window, if there is none. -/
  windowError : Option String := none
  /-- The size of the window, if it is not the size asked for. -/
  innerSize : Option Extent := none

/-- An event of the window. -/
inductive WindowEvent where
  /-- The viewer may show its window. -/
  | resumed
  /-- Nothing happened. -/
  | idle
  /-- The window is to be closed. -/
  | closeRequested
  /-- The window has another size. -/
  | resized (size : Extent)
  /-- The left button was pressed or released. -/
  | leftButton (pressed : Bool)
  /-- The cursor was moved. -/
  | cursorMoved (x y : Float)
  /-- The wheel was turned by a number of lines. -/
  | wheelLines (y : Float32)
  /-- The wheel was turned by a number of pixels. -/
  | wheelPixels (y : Float)
  /-- The tabulator key was pressed, not held. -/
  | tabPressed
  /-- The window is to be redrawn. -/
  | redrawRequested
  /-- Something the viewer does not care about. -/
  | other

/-- The viewer with its window. -/
structure Window where
  /-- The viewer. -/
  app : App Gpu.Backend
  /-- The surroundings. -/
  desktop : Desktop
  /-- Whether the window has been created. -/
  isOpen : Bool := false
  /-- Whether the left button is down. -/
  dragging : Bool := false
  /-- Where the cursor was last seen while dragging. -/
  lastCursor : Option (Float × Float) := none
  /-- Whether the viewer ends. -/
  exiting : Bool := false
  /-- The calls not looked at yet, oldest first. -/
  calls : List ScreenCall := []

namespace Window

/-- How far a pixel of dragging turns the camera. -/
def orbitSensitivity : Float32 := 0.005

/-- How far a line of the wheel moves the camera. -/
def lineStep : Float32 := 0.25

/-- How far a pixel of the wheel moves the camera. -/
def pixelStep : Float32 := 0.01

/-- Make a call to the window system. -/
def emit (w : Window) (c : ScreenCall) : Window := { w with calls := w.calls ++ [c] }

/-- Move the calls of a backend to those of the window. -/
def takeCalls (w : Window) (b : Gpu.Backend) : Window × Gpu.Backend :=
  let device := { b.device with calls := #[] }
  ({ w with calls := w.calls ++ b.device.calls.toList.map .gpu }, { b with device := device })

/-- Replace the viewer and collect the calls its session has made. -/
def withApp (w : Window) (a : App Gpu.Backend) : Window :=
  match a.session with
  | none => { w with app := a }
  | some s =>
    let (w, backend) := w.takeCalls s.backend
    { w with app := { a with session := some { s with backend := backend } } }

/-- Replace the session, if there is one. -/
def onSession (w : Window)
    (f : RenderSession Gpu.Backend FileTextures → Logged (RenderSession Gpu.Backend FileTextures)) :
    Logged Window := do
  match w.app.session with
  | none => return w
  | some s => return w.withApp { w.app with session := some (← f s) }

/-- Ask to be redrawn. -/
def requestRedraw (w : Window) : Window := if w.isOpen then w.emit .requestRedraw else w

/-- End the viewer. -/
def exit (w : Window) : Window := { w.emit .exit with exiting := true }

/-! ## Opening -/

/-- Create the window and open the preview of a document; an error is a text. -/
def openWindow (w : Window) (document : String) : Logged (Window × Except String Unit) := do
  let config := w.app.config.window
  let asked : Extent := ⟨config.width, config.height⟩
  let w := w.emit (.createWindow config.title asked)
  match w.desktop.windowError with
  | some text => return (w, .error s!"Failed to create window: {text}")
  | none =>
    let device : Gpu.Device := { environment := w.desktop.gpu }
    let backend : Gpu.Backend := { device := device, clearColor := w.app.config.clearColor }
    let (app, result) ← w.app.openPreview backend (w.desktop.innerSize.getD asked) document
    match result with
    | .ok _ => return ({ w.withApp app with isOpen := true }, .ok ())
    | .error e =>
      return (w.withApp { app with session := none, surface := none },
        .error s!"Failed to signal render surface ready: {e.message}")

/-- Show the window, unless that has been done. -/
def resume (w : Window) : Logged Window := do
  match w.isOpen, w.app.document? with
  | false, some document =>
    let (w, result) ← w.openWindow document
    match result with
    | .ok _ =>
      Logged.info "Window and render surface initialized"
      return w
    | .error text =>
      Logged.error text
      return w.exit
  | _, _ => return w

/-! ## Working -/

/-- Draw what a message asks for; a failure is logged. -/
def drawMessage (s : RenderSession Gpu.Backend FileTextures) (m : RenderMessage) :
    Logged (RenderSession Gpu.Backend FileTextures) := do
  let (s, result) ← s.handle m
  match result with
  | .ok _ => return s
  | .error e =>
    Logged.error s!"Failed to render model: {e.message}"
    return s

/-- The name under which the title shows a document. -/
def documentName (document : String) : String := (Path.fileName? document).getD document

/-- The title: that of the configuration, the document and what the panel shows. -/
def title? (w : Window) : Option String :=
  w.app.status?.map fun status =>
    let document := (w.app.controller.document? App.panel).getD ""
    s!"{w.app.config.window.title} - {documentName document} ({status.text})"

/-- Bring the title up to date. -/
def updateTitle (w : Window) : Window :=
  match w.isOpen, w.title? with
  | true, some title => w.emit (.setTitle title)
  | _, _ => w

/-- What is done whenever all events are handled. -/
def pump (w : Window) : Logged Window := do
  return (w.withApp (← w.app.pump drawMessage)).updateTitle

/-- Draw the model again, if the session can. -/
def redraw (w : Window) : Logged Window :=
  w.onSession fun s => do
    if s.state = .ready then
      let (s, result) ← s.redraw
      match result with
      | .ok _ => return s
      | .error (.surface .timeout) =>
        Logged.debug "Frame timed out"
        return s
      | .error e =>
        Logged.error s!"Redraw failed: {e.message}"
        return s
    else return s

/-- Close the preview. -/
def close (w : Window) : Logged Window := do
  let (app, session) ← w.app.close
  match session with
  | none => return { w with app := app }
  | some s => return { (w.takeCalls s.backend).1 with app := app }

/-! ## Events -/

/-- The cursor was moved. -/
def moveCursor (w : Window) (x y : Float) : Logged Window := do
  if w.dragging then
    let w ←
      match w.lastCursor, w.app.session with
      | some (lastX, lastY), some _ =>
        let yaw := Binary.narrow (-(x - lastX)) * orbitSensitivity
        let pitch := Binary.narrow (y - lastY) * orbitSensitivity
        let w ← w.onSession fun s => return s.orbit yaw pitch
        pure w.requestRedraw
      | _, _ => pure w
    return { w with lastCursor := some (x, y) }
  else return w

/-- The wheel was turned. -/
def scroll (w : Window) (amount : Float32) : Logged Window := do
  if w.app.session.isSome then
    let w ← w.onSession fun s => return s.dolly (-amount)
    return w.requestRedraw
  else return w

/-- The window has another size. -/
def resize (w : Window) (size : Extent) : Logged Window := do
  let w ← w.onSession fun s => do
    let s ← s.resize size
    Logged.info s!"Resized to {size.width}x{size.height}"
    return s
  return w.requestRedraw

/-- What an event does. -/
def handle (w : Window) : WindowEvent → Logged Window
  | .resumed => w.resume
  | .closeRequested => do
    Logged.info "Close requested"
    return (← w.close).exit
  | .resized size => w.resize size
  | .leftButton pressed =>
    return { w with dragging := pressed, lastCursor := if pressed then w.lastCursor else none }
  | .cursorMoved x y => w.moveCursor x y
  | .wheelLines y => w.scroll (y * lineStep)
  | .wheelPixels y => w.scroll (Binary.narrow y * pixelStep)
  | .tabPressed => do return { w with app := ← w.app.cycleDocument }
  | .redrawRequested => w.redraw
  | .idle => return w
  | .other => return w

/-- Handle an event and, unless the viewer ends, do the work after it. -/
def deliver (w : Window) (e : WindowEvent) : Logged Window := do
  let w ← w.handle e
  if w.exiting then return w else w.pump

/-- Deliver events until the viewer ends; the calls made for each event are returned with it. -/
def deliverAll (w : Window) : List (WindowEvent × α) → Logged (List (α × List ScreenCall))
  | [] => return []
  | (e, a) :: es => do
    if w.exiting then return []
    else
      let w ← w.deliver e
      let rest ← { w with calls := [] }.deliverAll es
      return (a, w.calls) :: rest

end Window

namespace Viewer

/-- Run the viewer with the given arguments over a list of events.  Each event carries a mark, with
which its calls are returned; `first` is the mark of the event that shows the window. -/
def run (fs : FileSystem) (cwd : String) (args : List String) (desktop : Desktop) (first : α)
    (events : List (WindowEvent × α)) :
    Logged (Except StartupError (List (α × List ScreenCall))) := do
  match ← Startup.prepare fs cwd args with
  | .error e => return .error e
  | .ok start =>
    Logged.info "Running event loop"
    let w : Window := { app := .create start.config start.workspace fs, desktop := desktop }
    return .ok (← (w.emit .waitForEvents).deliverAll ((.resumed, first) :: events))

end Viewer
end ModelPreview
