import Mathlib
import ModelPreview.Viewer.Window
import ModelPreview.Proofs.Viewer.Life

/-!
# The viewer settles on the current document

Between any two events of its window the files of the viewer may change, and the viewer may or may not
get to the work it does when all events are handled.  Whenever it does, the panel shows what was loaded
for the document reached by the steps so far, and it never shows that it waits.  Once the preview is
closed nothing is posted or drawn any more, whatever happens to the window.

Main definitions:

- `ViewerOp` and `Window.perform`: what can happen to a viewer.
- `ViewerHistory`: a viewer with what has been asked of it.
- `ViewerHistory.Lives`: the invariant of a history.
- `ViewerHistory.Settles` and `ViewerHistory.Over`: what is seen of an open preview and after its end.

Main results:

- `Window.sameView_handle`: most of what happens concerns the render session alone.
- `ViewerHistory.Lives.step` and `ViewerHistory.Lives.run`: the invariant is kept.
- `ViewerHistory.Lives.opens`: the viewer opens its preview unless there is no window or no document.
- `ViewerHistory.viewer_settles`: every history is one of settling or over.
-/

namespace ModelPreview

open PreviewEvent

/-! ## What can happen to a viewer -/

/-- What can happen to a viewer. -/
inductive ViewerOp where
  /-- The files change. -/
  | files (fs : FileSystem)
  /-- An event of the window is handled. -/
  | event (e : WindowEvent)
  /-- All events are handled. -/
  | pump

/-- Whether the next document is to be shown. -/
def ViewerOp.isCycle : ViewerOp → Bool
  | event .tabPressed => true
  | _ => false

/-- Whether the window is to be closed. -/
def ViewerOp.isClose : ViewerOp → Bool
  | event .closeRequested => true
  | _ => false

/-- The call to the graphics device, if it is one. -/
def ScreenCall.gpu? : ScreenCall → Option Gpu.Call
  | gpu c => some c
  | _ => none

namespace Window

/-- The viewer with other files. -/
def changeFiles (w : Window) (fs : FileSystem) : Window :=
  { w with app := { w.app with
      files := fs
      session := w.app.session.map fun s => { s with textures := ⟨fs⟩ } } }

/-- What happens to a viewer. -/
def perform (w : Window) : ViewerOp → Logged Window
  | .files fs => return w.changeFiles fs
  | .event e => w.handle e
  | .pump => w.pump

variable {w : Window}

/-! ## The preview and the render session -/

theorem sameView_withApp (w : Window) (a : App Gpu.Backend) : a.SameView (w.withApp a).app := by
  cases hsession : a.session with
  | none =>
    simp only [withApp, hsession]
    exact .refl a
  | some s =>
    simp only [withApp, hsession, takeCalls]
    exact ⟨rfl, rfl, rfl, rfl, rfl, by rw [hsession]; rfl⟩

theorem isOpen_withApp (w : Window) (a : App Gpu.Backend) : (w.withApp a).isOpen = w.isOpen := by
  unfold withApp
  split <;> rfl

/-- Between two windows only the files and the render session have changed. -/
structure SameView (w w' : Window) : Prop where
  app : w.app.SameView w'.app
  isOpen : w'.isOpen = w.isOpen

namespace SameView

theorem refl (w : Window) : w.SameView w := ⟨.refl w.app, rfl⟩

theorem trans {w' w'' : Window} (h : w.SameView w') (h' : w'.SameView w'') : w.SameView w'' :=
  ⟨h.app.trans h'.app, h'.isOpen.trans h.isOpen⟩

end SameView

theorem sameView_onSession (w : Window)
    (f : RenderSession Gpu.Backend FileTextures → Logged (RenderSession Gpu.Backend FileTextures)) :
    w.SameView (w.onSession f).value := by
  cases hsession : w.app.session with
  | none =>
    simp only [onSession, hsession]
    exact .refl w
  | some s =>
    simp only [onSession, hsession, Logged.value_bind, Logged.value_pure]
    have hchanged : w.app.SameView { w.app with session := some (f s).value } :=
      ⟨rfl, rfl, rfl, rfl, rfl, by rw [hsession]; rfl⟩
    have hold : w.SameView { w with app := { w.app with session := some (f s).value } } :=
      ⟨hchanged, rfl⟩
    exact hold.trans ⟨w.sameView_withApp _, w.isOpen_withApp _⟩

theorem sameView_requestRedraw (w : Window) : w.SameView w.requestRedraw := by
  unfold requestRedraw
  split
  · exact ⟨.refl w.app, rfl⟩
  · exact .refl w

/-- Turning or moving the camera. -/
theorem sameView_adjust (w : Window)
    (f : RenderSession Gpu.Backend FileTextures → Logged (RenderSession Gpu.Backend FileTextures)) :
    w.SameView (w.onSession f).value.requestRedraw :=
  (w.sameView_onSession f).trans (sameView_requestRedraw _)

theorem sameView_moveCursor (w : Window) (x y : Float) : w.SameView (w.moveCursor x y).value := by
  have hnoted : ∀ w' : Window, w.SameView w' →
      w.SameView { w' with lastCursor := some (x, y) } := fun w' h => ⟨h.app, h.isOpen⟩
  unfold moveCursor
  split
  · split
    · exact hnoted _ (w.sameView_adjust _)
    · exact hnoted _ (.refl w)
  · exact .refl w

theorem sameView_scroll (w : Window) (amount : Float32) : w.SameView (w.scroll amount).value := by
  unfold scroll
  split
  · exact w.sameView_adjust _
  · exact .refl w

/-- What concerns the render session alone. -/
theorem sameView_handle (w : Window) {e : WindowEvent} (hresumed : e ≠ .resumed)
    (hclose : e ≠ .closeRequested) (htab : e ≠ .tabPressed) : w.SameView (w.handle e).value := by
  cases e with
  | resumed => exact absurd rfl hresumed
  | closeRequested => exact absurd rfl hclose
  | tabPressed => exact absurd rfl htab
  | resized size => exact (sameView_onSession w _).trans (sameView_requestRedraw _)
  | leftButton pressed => exact ⟨.refl w.app, rfl⟩
  | cursorMoved x y => exact w.sameView_moveCursor x y
  | wheelLines y => exact w.sameView_scroll _
  | wheelPixels y => exact w.sameView_scroll _
  | redrawRequested => exact sameView_onSession w _
  | idle => exact .refl w
  | other => exact .refl w

theorem sameView_changeFiles (w : Window) (fs : FileSystem) : w.SameView (w.changeFiles fs) :=
  ⟨⟨rfl, rfl, rfl, rfl, rfl, by simp [changeFiles]⟩, rfl⟩

/-! ## The preview and everything else -/

/-- A pump of the window is one of the viewer. -/
theorem sameView_pump (w : Window) :
    (w.app.pump drawMessage).value.SameView w.pump.value.app ∧ w.pump.value.isOpen = w.isOpen := by
  have htitle : ∀ w' : Window, w'.SameView w'.updateTitle := by
    intro w'
    unfold updateTitle
    split
    · exact ⟨.refl w'.app, rfl⟩
    · exact .refl w'
  have hview := htitle (w.withApp (w.app.pump drawMessage).value)
  exact ⟨(w.sameView_withApp _).trans hview.app, hview.isOpen.trans (w.isOpen_withApp _)⟩

theorem app_close (w : Window) :
    w.close.value.app = w.app.close.value.1 ∧ w.close.value.isOpen = w.isOpen := by
  simp only [close, Logged.value_bind]
  split
  · exact ⟨rfl, rfl⟩
  · exact ⟨rfl, rfl⟩

/-! ## Showing the window -/

/-- When the viewer may show its window, it shows a document in it. -/
structure Opens (w : Window) (d : String) : Prop where
  isOpen : w.isOpen = false
  windowError : w.desktop.windowError = none
  document : w.app.document? = some d

/-- Without a new window there is no preview. -/
theorem sameView_resume (h : ∀ d, ¬w.Opens d) : w.SameView w.resume.value := by
  cases hopen : w.isOpen with
  | true =>
    simp only [resume, hopen, Logged.value_pure]
    exact .refl w
  | false =>
  cases hd : w.app.document? with
  | none =>
    simp only [resume, hopen, hd, Logged.value_pure]
    exact .refl w
  | some d =>
  cases herror : w.desktop.windowError with
  | none => exact absurd ⟨hopen, herror, hd⟩ (h d)
  | some text =>
    simp only [resume, hopen, hd, openWindow, emit, herror, Logged.value_bind, Logged.value_pure]
    exact ⟨.refl w.app, hopen.symm⟩

/-- The backend for a new window. -/
def freshBackend (w : Window) : Gpu.Backend :=
  { device := { environment := w.desktop.gpu }, clearColor := w.app.config.clearColor }

/-- The size of a new window. -/
def freshSize (w : Window) : Extent :=
  w.desktop.innerSize.getD ⟨w.app.config.window.width, w.app.config.window.height⟩

/-- With a new window the preview is opened. -/
theorem Opens.resume {d : String} (h : w.Opens d) {id : Nat}
    (hok : (w.app.openPreview w.freshBackend w.freshSize d).value.2 = .ok id) :
    (w.app.openPreview w.freshBackend w.freshSize d).value.1.SameView w.resume.value.app ∧
      w.resume.value.isOpen = true := by
  obtain ⟨a, hopened⟩ : ∃ a, (w.app.openPreview w.freshBackend w.freshSize d).value = (a, .ok id) :=
    ⟨_, Prod.ext rfl hok⟩
  unfold freshBackend freshSize at hopened
  have hwindow : (w.openWindow d).value =
      ({ (w.emit (.createWindow w.app.config.window.title
          ⟨w.app.config.window.width, w.app.config.window.height⟩)).withApp a with
        isOpen := true }, .ok ()) := by
    simp [openWindow, emit, h.windowError, hopened]
  simp only [Window.resume, h.isOpen, h.document, Logged.value_bind, hwindow, freshBackend,
    freshSize, hopened]
  exact ⟨sameView_withApp _ a, rfl⟩

/-! ## After the end -/

/-- The calls to the graphics device. -/
def drawn (w : Window) : List Gpu.Call := w.calls.filterMap ScreenCall.gpu?

@[simp]
theorem drawn_emit (w : Window) {c : ScreenCall} (hc : c.gpu? = none) :
    (w.emit c).drawn = w.drawn := by
  simp [drawn, emit, hc]

theorem drawn_requestRedraw (w : Window) : w.requestRedraw.drawn = w.drawn := by
  unfold requestRedraw
  split
  · exact w.drawn_emit rfl
  · rfl

theorem drawn_updateTitle (w : Window) : w.updateTitle.drawn = w.drawn := by
  unfold updateTitle
  split
  · exact w.drawn_emit rfl
  · rfl

theorem onSession_of_no_session (h : w.app.session = none)
    (f : RenderSession Gpu.Backend FileTextures → Logged (RenderSession Gpu.Backend FileTextures)) :
    (w.onSession f).value = w := by
  simp [onSession, h]

/-- Without a render session nothing is drawn, unless a preview is opened. -/
theorem drawn_handle (h : w.app.session = none) (hopen : w.isOpen = true) (e : WindowEvent) :
    (w.handle e).value.drawn = w.drawn := by
  cases e with
  | resumed => simp [handle, resume, hopen]
  | closeRequested =>
    -- The calls of a session are taken over only if there is one.
    simp [handle, close, App.close, App.disposeSession, App.closePreview, h, exit, emit, drawn,
      ScreenCall.gpu?]
  | tabPressed => rfl
  | resized size => exact (drawn_requestRedraw _).trans (congrArg drawn (onSession_of_no_session h _))
  | leftButton pressed => rfl
  | cursorMoved x y =>
    cases hdragging : w.dragging <;> simp [handle, moveCursor, hdragging, h, drawn]
  | wheelLines y => simp [handle, scroll, h]
  | wheelPixels y => simp [handle, scroll, h]
  | redrawRequested => exact congrArg drawn (onSession_of_no_session h _)
  | idle => rfl
  | other => rfl

/-- After the end nothing is drawn any more. -/
theorem drawn_perform (ha : w.app.Ended) (hopen : w.isOpen = true) (op : ViewerOp) :
    (w.perform op).value.drawn = w.drawn := by
  cases op with
  | files fs => rfl
  | event e => exact drawn_handle ha.session hopen e
  | pump =>
    have hsession : (w.app.pump drawMessage).value.session = none := (ha.pump drawMessage).1.session
    refine (drawn_updateTitle _).trans ?_
    simp only [withApp, hsession]
    rfl

end Window

/-! ## Histories -/

/-- A viewer with what has been asked of it. -/
structure ViewerHistory where
  /-- The viewer. -/
  window : Window
  /-- How often the next document was to be shown. -/
  cycles : Nat := 0
  /-- What was loaded for the last request. -/
  loaded : Option (Except BackendError Model) := none
  /-- Whether the preview has been closed. -/
  closed : Bool := false

namespace ViewerHistory

/-- A viewer of which nothing has been asked. -/
def start (config : Config) (workspace : String) (files : FileSystem) (desktop : Desktop) :
    ViewerHistory where
  window := { app := .create config workspace files, desktop := desktop }

/-- One more operation.  A request that it issues is answered from the files as they are then. -/
def step (h : ViewerHistory) (op : ViewerOp) : ViewerHistory :=
  let w := (h.window.perform op).value
  { window := w
    cycles := if op.isCycle then h.cycles + 1 else h.cycles
    loaded :=
      if w.app.controller.nextRequest = h.window.app.controller.nextRequest then h.loaded
      else (w.app.controller.document? App.panel).map (loadModel h.window.app.files)
    closed := h.closed || (op.isClose && h.window.isOpen) }

/-- The history of a list of operations. -/
def run (h : ViewerHistory) (ops : List ViewerOp) : ViewerHistory := ops.foldl step h

/-- Where the viewer is in the life of its preview. -/
inductive Stage (h : ViewerHistory) : Prop where
  | unopened (hopen : h.window.isOpen = false) (hclosed : h.closed = false)
      (ha : h.window.app.Unopened)
  | previews (hopen : h.window.isOpen = true) (hclosed : h.closed = false) {s : PreviewSession}
      {result : Except BackendError Model} (ha : h.window.app.Previews s result)
      (hloaded : h.loaded = some result)
  | ended (hopen : h.window.isOpen = true) (hclosed : h.closed = true) (ha : h.window.app.Ended)

/-- The documents of the viewer are these ones, and as many steps have been made through them as were
asked for. -/
structure Lives (workspace : String) (docs : List String) (h : ViewerHistory) : Prop where
  documents : h.window.app.documents = docs
  root : h.window.app.controller.root = workspace
  current : docs ≠ [] → h.window.app.current = h.cycles % docs.length
  stage : h.Stage

variable {h : ViewerHistory} {workspace : String} {docs : List String}

theorem lives_start (config : Config) (workspace : String) (files : FileSystem) (desktop : Desktop) :
    (start config workspace files desktop).Lives workspace
      (config.documents.map (Path.join workspace)) where
  documents := rfl
  root := rfl
  current _ := (Nat.zero_mod _).symm
  stage := .unopened rfl rfl ⟨⟨rfl, rfl, rfl⟩, rfl, rfl⟩

theorem settledStatus_settled (surfaceError : Option String) (result : Except BackendError Model) :
    some (settledStatus surfaceError result) = some .showing ∨
      ∃ reason, some (settledStatus surfaceError result) = some (.unavailable reason) := by
  cases surfaceError with
  | some reason => exact .inr ⟨reason, rfl⟩
  | none =>
    cases result with
    | ok model => exact .inl rfl
    | error e => exact .inr ⟨e.message, rfl⟩

/-! ## From outside -/

/-- The viewer after its next pump. -/
def pumped (h : ViewerHistory) : Window := h.window.pump.value

/-- The controller after its next pump, and how many models it says it has sent. -/
def worked (h : ViewerHistory) : Controller × Nat :=
  (h.window.app.controller.pump h.window.app.backend.completed).value

/-- What the next pump posts. -/
def posted (h : ViewerHistory) : List PreviewEvent :=
  h.window.app.controller.postedUntil h.worked.1

/-- The next pump settles the panel: it shows the document reached by the steps so far or says why it
cannot, and at most one model is posted, the one that was loaded for the last request. -/
structure Settles (workspace : String) (docs : List String) (h : ViewerHistory) : Prop where
  status : ∃ s result, h.window.app.controller.sessions.find? App.panel = some s ∧
    h.loaded = some result ∧ h.pumped.app.status? = some (settledStatus s.surfaceError result)
  settled : h.pumped.app.status? = some .showing ∨
    ∃ reason, h.pumped.app.status? = some (.unavailable reason)
  document : ∃ d, docs[h.cycles % docs.length]? = some d ∧
    h.pumped.app.controller.document? App.panel = some d
  count : h.worked.2 = h.posted.length
  atMostOne : h.worked.2 ≤ 1
  models : ∀ e ∈ h.posted, ∃ model, h.loaded = some (.ok model) ∧
    e = .posted App.panel (modelText workspace model)

/-- There is no preview: whatever happens next, the panel shows nothing, and nothing is posted or
drawn. -/
structure Over (h : ViewerHistory) : Prop where
  status : h.window.app.status? = none
  statusAfter : ∀ op, (h.window.perform op).value.app.status? = none
  posted : ∀ op, h.window.app.controller.postedUntil (h.window.perform op).value.app.controller = []
  sent : h.worked.2 = 0
  drawn : ∀ op, (h.window.perform op).value.drawn = h.window.drawn

/-! ## One operation -/

/-- Without a request the last one stays the last one. -/
theorem loaded_step_of_keeps {op : ViewerOp}
    (hkeeps : h.window.app.Keeps (h.window.perform op).value.app) : (h.step op).loaded = h.loaded :=
  if_pos hkeeps.nextRequest

/-- A request is answered from the files. -/
theorem loaded_step_of_previews {op : ViewerOp} {s : PreviewSession}
    {result : Except BackendError Model} {d : String}
    (hnext : (h.window.perform op).value.app.controller.nextRequest =
      h.window.app.controller.nextRequest + 1)
    (ha : (h.window.perform op).value.app.Previews s result)
    (hd : (h.window.perform op).value.app.document? = some d) :
    (h.step op).loaded = some (loadModel h.window.app.files d) := by
  have hne : (h.window.perform op).value.app.controller.nextRequest ≠
      h.window.app.controller.nextRequest := by omega
  have hloaded : (h.step op).loaded = _ := if_neg hne
  rw [hloaded, ha.document?_eq, hd]
  rfl

theorem position_cycle {k current : Nat} (hn : docs ≠ []) (hc : current = k % docs.length) :
    (if docs.length < 2 then current else (current + 1) % docs.length) = (k + 1) % docs.length := by
  have hpos : 0 < docs.length := List.length_pos_of_ne_nil hn
  split
  · have hone : docs.length = 1 := by omega
    rw [hc, hone, Nat.mod_one, Nat.mod_one]
  · rw [hc, Nat.mod_add_mod]

namespace Lives

theorem unopened (hlives : h.Lives workspace docs) (hopen : h.window.isOpen = false) :
    h.closed = false ∧ h.window.app.Unopened := by
  cases hlives.stage with
  | unopened _ hc ha => exact ⟨hc, ha⟩
  | previews hisOpen => exact nomatch hisOpen.symm.trans hopen
  | ended hisOpen => exact nomatch hisOpen.symm.trans hopen

theorem previews (hlives : h.Lives workspace docs) (hopen : h.window.isOpen = true)
    (hclosed : h.closed = false) :
    ∃ s result, h.window.app.Previews s result ∧ h.loaded = some result := by
  cases hlives.stage with
  | unopened hisOpen => exact nomatch hisOpen.symm.trans hopen
  | @previews _ _ s result ha hl => exact ⟨s, result, ha, hl⟩
  | ended _ hc => exact nomatch hc.symm.trans hclosed

theorem ended (hlives : h.Lives workspace docs) (hclosed : h.closed = true) :
    h.window.isOpen = true ∧ h.window.app.Ended := by
  cases hlives.stage with
  | unopened _ hc => exact nomatch hc.symm.trans hclosed
  | previews _ hc => exact nomatch hc.symm.trans hclosed
  | ended hopen _ ha => exact ⟨hopen, ha⟩

/-- An operation that asks for no other document only has to lead to the right stage. -/
theorem of_stage (hlives : h.Lives workspace docs) {op : ViewerOp} (hcycle : op.isCycle = false)
    (hdocuments : (h.window.perform op).value.app.documents = h.window.app.documents)
    (hcurrent : (h.window.perform op).value.app.current = h.window.app.current)
    (hroot : (h.window.perform op).value.app.controller.root = h.window.app.controller.root)
    (hstage : (h.step op).Stage) : (h.step op).Lives workspace docs where
  documents := hdocuments.trans hlives.documents
  root := hroot.trans hlives.root
  current hne := by
    have hcycles : (h.step op).cycles = h.cycles := by simp [step, hcycle]
    rw [hcycles, ← hlives.current hne]
    exact hcurrent
  stage := hstage

theorem of_keeps (hlives : h.Lives workspace docs) {op : ViewerOp} (hcycle : op.isCycle = false)
    (hkeeps : h.window.app.Keeps (h.window.perform op).value.app) (hstage : (h.step op).Stage) :
    (h.step op).Lives workspace docs :=
  hlives.of_stage hcycle hkeeps.documents hkeeps.current hkeeps.root hstage

/-- What concerns the files or the render session alone. -/
theorem step_of_sameView (hlives : h.Lives workspace docs) {op : ViewerOp}
    (hcycle : op.isCycle = false) (hclose : op.isClose = false)
    (hsame : h.window.SameView (h.window.perform op).value) :
    (h.step op).Lives workspace docs := by
  have hclosed : (h.step op).closed = h.closed := by simp [step, hclose]
  have hloaded := loaded_step_of_keeps hsame.app.keeps
  refine hlives.of_keeps hcycle hsame.app.keeps ?_
  cases hlives.stage with
  | unopened hopen hc ha =>
    exact .unopened (hsame.isOpen.trans hopen) (hclosed.trans hc) (hsame.app.unopened ha)
  | previews hopen hc ha hl =>
    exact .previews (hsame.isOpen.trans hopen) (hclosed.trans hc) (hsame.app.previews ha)
      (hloaded.trans hl)
  | ended hopen hc ha =>
    exact .ended (hsame.isOpen.trans hopen) (hclosed.trans hc) (hsame.app.ended ha)

theorem step_pump (hlives : h.Lives workspace docs) :
    (h.step .pump).Lives workspace docs := by
  obtain ⟨hview, hisOpen⟩ := h.window.sameView_pump
  have hclosed : (h.step .pump).closed = h.closed := by simp [step, ViewerOp.isClose]
  cases hlives.stage with
  | unopened hopen hc ha =>
    exact hlives.of_keeps rfl ((ha.ended.pump Window.drawMessage).2.1.trans hview.keeps)
      (.unopened (hisOpen.trans hopen) (hclosed.trans hc)
        (hview.unopened (ha.pump Window.drawMessage)))
  | previews hopen hc ha hl =>
    obtain ⟨s', texts, -, ha', hk⟩ := ha.pump Window.drawMessage
    have hk := hk.trans hview.keeps
    exact hlives.of_keeps rfl hk (.previews (hisOpen.trans hopen) (hclosed.trans hc)
      (hview.previews ha') ((loaded_step_of_keeps hk).trans hl))
  | ended hopen hc ha =>
    obtain ⟨ha', hk, -⟩ := ha.pump Window.drawMessage
    exact hlives.of_keeps rfl (hk.trans hview.keeps)
      (.ended (hisOpen.trans hopen) (hclosed.trans hc) (hview.ended ha'))

theorem step_resumed (hlives : h.Lives workspace docs) :
    (h.step (.event .resumed)).Lives workspace docs := by
  by_cases hopens : ∃ d, h.window.Opens d
  · -- A closed preview leaves the window behind, so a new window means that nothing was opened before.
    obtain ⟨d, hopens⟩ := hopens
    obtain ⟨hc, ha⟩ := hlives.unopened hopens.isOpen
    obtain ⟨s, ha', ⟨id, hok⟩, hdocuments, hcurrent, hroot, hnext⟩ :=
      ha.openPreview h.window.freshBackend h.window.freshSize hopens.document
    obtain ⟨hview, hisOpen⟩ := hopens.resume hok
    have hresumed := hview.previews ha'
    have hdocument : (h.window.perform (.event .resumed)).value.app.document? = some d := by
      rw [← hopens.document, App.document?, App.document?]
      change h.window.resume.value.app.documents[h.window.resume.value.app.current]? = _
      rw [hview.documents, hview.current, hdocuments, hcurrent]
    have hloaded : (h.step (.event .resumed)).loaded = some (loadModel h.window.app.files d) :=
      loaded_step_of_previews ((congrArg Controller.nextRequest hview.controller).trans hnext)
        hresumed hdocument
    refine hlives.of_stage rfl (hview.documents.trans hdocuments) (hview.current.trans hcurrent)
      ((congrArg Controller.root hview.controller).trans hroot)
      (.previews hisOpen ?_ hresumed hloaded)
    simp [step, hc, ViewerOp.isClose]
  · exact hlives.step_of_sameView rfl rfl
      (Window.sameView_resume fun d hd => hopens ⟨d, hd⟩)

theorem step_close (hlives : h.Lives workspace docs) :
    (h.step (.event .closeRequested)).Lives workspace docs := by
  obtain ⟨happ, hisOpen⟩ := h.window.app_close
  have hkeeps : h.window.app.Keeps h.window.close.value.app := by
    rw [happ]
    exact h.window.app.keeps_close
  refine hlives.of_keeps rfl hkeeps ?_
  have hclosed : (h.step (.event .closeRequested)).closed = (h.closed || h.window.isOpen) := by
    simp [step, ViewerOp.isClose]
  cases hlives.stage with
  | unopened hopen hc ha =>
    exact .unopened (hisOpen.trans hopen) (by rw [hclosed, hc, hopen]; rfl) (happ ▸ ha.close)
  | previews hopen hc ha hl =>
    exact .ended (hisOpen.trans hopen) (by rw [hclosed, hopen, Bool.or_true]) (happ ▸ ha.close)
  | ended hopen hc ha =>
    exact .ended (hisOpen.trans hopen) (by rw [hclosed, hopen, Bool.or_true]) (happ ▸ ha.close)

/-- One more step through the documents only has to lead to the right stage. -/
theorem of_cycle (hlives : h.Lives workspace docs) (hstage : (h.step (.event .tabPressed)).Stage) :
    (h.step (.event .tabPressed)).Lives workspace docs := by
  have hsteps := h.window.app.steps_cycleDocument
  refine ⟨hsteps.documents.trans hlives.documents, hsteps.root.trans hlives.root, fun hne => ?_, hstage⟩
  have hcycles : (h.step (.event .tabPressed)).cycles = h.cycles + 1 := rfl
  rw [hcycles, ← position_cycle hne (hlives.current hne), ← hlives.documents]
  exact hsteps.current

theorem step_tab (hlives : h.Lives workspace docs) :
    (h.step (.event .tabPressed)).Lives workspace docs := by
  have hclosed : (h.step (.event .tabPressed)).closed = h.closed := by simp [step, ViewerOp.isClose]
  refine hlives.of_cycle ?_
  cases hlives.stage with
  | unopened hopen hc ha => exact .unopened hopen (hclosed.trans hc) ha.cycleDocument
  | ended hopen hc ha => exact .ended hopen (hclosed.trans hc) ha.cycleDocument
  | previews hopen hc ha hl =>
    -- Only with a second document anything is asked for.
    by_cases hn : h.window.app.documents.length < 2
    · have hsame : h.window.app.SameView h.window.app.cycleDocument.value := by
        rw [App.cycleDocument_of_lt hn]
        exact .refl _
      exact .previews hopen (hclosed.trans hc) (hsame.previews ha)
        ((loaded_step_of_keeps hsame.keeps).trans hl)
    · obtain ⟨s', d, hd, ha', hnext⟩ := ha.cycleDocument hn
      exact .previews hopen (hclosed.trans hc) ha' (loaded_step_of_previews hnext ha' hd)

/-- The invariant is kept by every operation. -/
theorem step (hlives : h.Lives workspace docs) (op : ViewerOp) :
    (h.step op).Lives workspace docs := by
  cases op with
  | files fs => exact hlives.step_of_sameView rfl rfl (h.window.sameView_changeFiles fs)
  | pump => exact hlives.step_pump
  | event e =>
    by_cases hresumed : e = .resumed
    · exact hresumed ▸ hlives.step_resumed
    by_cases hclose : e = .closeRequested
    · exact hclose ▸ hlives.step_close
    by_cases htab : e = .tabPressed
    · exact htab ▸ hlives.step_tab
    have hsame := h.window.sameView_handle hresumed hclose htab
    refine hlives.step_of_sameView ?_ ?_ hsame
    · cases e <;> first | rfl | contradiction
    · cases e <;> first | rfl | contradiction

theorem run (hlives : h.Lives workspace docs) (ops : List ViewerOp) :
    (h.run ops).Lives workspace docs := by
  induction ops generalizing h with
  | nil => exact hlives
  | cons op ops ih => exact ih (hlives.step op)

/-! ## The two times of an open window -/

/-- With a window and a document the preview is opened, whatever the graphics device answers. -/
theorem opens (hlives : h.Lives workspace docs) (hdocs : docs ≠ [])
    (herror : h.window.desktop.windowError = none) :
    (h.step (.event .resumed)).window.isOpen = true := by
  by_cases hopens : ∃ d, h.window.Opens d
  · obtain ⟨d, hopens⟩ := hopens
    obtain ⟨-, ha⟩ := hlives.unopened hopens.isOpen
    obtain ⟨-, -, ⟨id, hok⟩, -⟩ :=
      ha.openPreview h.window.freshBackend h.window.freshSize hopens.document
    exact (hopens.resume hok).2
  · have hisOpen := (Window.sameView_resume fun d hd => hopens ⟨d, hd⟩).isOpen
    refine hisOpen.trans ?_
    by_contra hopen
    have hlt : h.window.app.current < h.window.app.documents.length := by
      rw [hlives.documents, hlives.current hdocs]
      exact Nat.mod_lt _ (List.length_pos_of_ne_nil hdocs)
    exact hopens ⟨_, Bool.eq_false_of_not_eq_true hopen, herror, List.getElem?_eq_getElem hlt⟩

/-- The document of the viewer is the one that is reached by as many steps as were asked for. -/
theorem reached (hlives : h.Lives workspace docs) {d : String}
    (hd : h.window.app.document? = some d) : docs[h.cycles % docs.length]? = some d := by
  have hne : docs ≠ [] := by
    rintro rfl
    rw [App.document?, hlives.documents, List.getElem?_nil] at hd
    exact Option.some_ne_none d hd.symm
  rw [← hlives.current hne, ← hlives.documents]
  exact hd

/-- The next pump settles an open preview. -/
theorem settles (hlives : h.Lives workspace docs) (hopen : h.window.isOpen = true)
    (hclosed : h.closed = false) : h.Settles workspace docs := by
  obtain ⟨s, result, ha, hloaded⟩ := hlives.previews hopen hclosed
  obtain ⟨s', texts, hpumped, ha', hkeeps⟩ := ha.pump Window.drawMessage
  obtain ⟨hview, -⟩ := h.window.sameView_pump
  have hafter : h.pumped.app.Previews s'.taken result := hview.previews ha'
  have hstatus : h.pumped.app.status? = some (settledStatus s.surfaceError result) := by
    rw [hafter.status?_eq, ← hpumped.settles.status]
    rfl
  have hposted : h.posted = texts.map (PreviewEvent.posted App.panel) := hpumped.posted
  have htexts := hpumped.settles.texts
  rw [hlives.root] at htexts
  exact {
    status := ⟨s, result, by simp [ha.serves.sessions], hloaded, hstatus⟩
    settled := hstatus ▸ settledStatus_settled s.surfaceError result
    document := by
      obtain ⟨d, hd, -⟩ := ha.document
      have hsame : h.pumped.app.document? = h.window.app.document? :=
        (hkeeps.trans hview.keeps).document?_eq
      exact ⟨d, hlives.reached hd, by rw [hafter.document?_eq, hsame, hd]⟩
    count := by rw [hposted, List.length_map]; exact hpumped.count
    atMostOne := by
      refine hpumped.count.trans_le ?_
      obtain rfl | ⟨model, -, rfl⟩ := htexts <;> simp
    models := by
      rw [hposted]
      obtain rfl | ⟨model, rfl, rfl⟩ := htexts
      · simp
      · intro e he
        exact ⟨model, hloaded, List.mem_singleton.1 he⟩ }

/-- Behind the end nothing happens any more. -/
theorem isOver (hlives : h.Lives workspace docs) (hclosed : h.closed = true) : h.Over := by
  obtain ⟨hopen, ha⟩ := hlives.ended hclosed
  have hafter : ∀ op, (h.window.perform op).value.app.Ended := fun op =>
    ((hlives.step op).ended (by simp [ViewerHistory.step, hclosed])).2
  exact {
    status := ha.status?_eq
    statusAfter := fun op => (hafter op).status?_eq
    posted := fun op => Controller.postedUntil_of_no_session (hafter op).sessions
    sent := (ha.pump Window.drawMessage).2.2
    drawn := Window.drawn_perform ha hopen }

end Lives

theorem closed_run (hclosed : h.closed = true) (ops : List ViewerOp) : (h.run ops).closed = true := by
  induction ops generalizing h with
  | nil => exact hclosed
  | cons op ops ih => exact ih (by simp [step, hclosed])

/-- An open preview can be closed. -/
theorem closed_step_close (hopen : h.window.isOpen = true) :
    (h.step (.event .closeRequested)).closed = true := by
  simp [step, ViewerOp.isClose, hopen]

/-- Whatever has happened to a viewer: while its preview is open, the next pump settles the panel on
the document reached, and once the preview is closed it stays over. -/
theorem viewer_settles (config : Config) (workspace : String) (files : FileSystem)
    (desktop : Desktop) (ops : List ViewerOp) :
    let h := (start config workspace files desktop).run ops
    (h.window.isOpen = true → h.closed = false →
      h.Settles workspace (config.documents.map (Path.join workspace))) ∧
    (h.closed = true → ∀ later, (h.run later).Over) := by
  have hlives := (lives_start config workspace files desktop).run ops
  exact ⟨hlives.settles, fun hclosed later => (hlives.run later).isOver (closed_run hclosed later)⟩

/-- Files of which one can be read; it holds a model with one face. -/
def readableFile : FileSystem where
  isFile path := path = "w/b.json"
  read _ := .ok (String.toUTF8 ("\x7b\"elements\": [\x7b\"from\": [0, 0, 0], \"to\": [1, 1, 1], " ++
    "\"faces\": \x7b\"up\": \x7b\"texture\": \"a\"\x7d\x7d\x7d]\x7d"))

/-- A viewer of two documents, the second of which can be read: with a device that can draw, one step
leads to this document, and the next pump posts its model.  Then the preview is closed. -/
theorem viewer_settles_readable :
    let config : Config := { documents := ["a.json", "b.json"] }
    let desktop : Desktop := { gpu := { adapter := some "adapter", formats := [.bgra8UnormSrgb] } }
    let viewer := start config "w" readableFile desktop
    let h := viewer.run [.event .resumed, .event .tabPressed]
    let closed := viewer.run [.event .resumed, .event .tabPressed, .pump, .event .closeRequested]
    h.Settles "w" ["w/a.json", "w/b.json"] ∧ h.cycles = 1 ∧ h.worked.2 = 1 ∧
      ∀ later, (closed.run later).Over := by
  intro config desktop viewer h closed
  have hopen : h.window.isOpen = true ∧ h.closed = false := by decide +kernel
  have hpumped : (h.step .pump).window.isOpen = true := h.window.sameView_pump.2.trans hopen.1
  have hclosed : closed.closed = true := closed_step_close hpumped
  have hsettles := (viewer_settles config "w" readableFile desktop
    [.event .resumed, .event .tabPressed]).1 hopen.1 hopen.2
  have hover := (viewer_settles config "w" readableFile desktop
    [.event .resumed, .event .tabPressed, .pump, .event .closeRequested]).2 hclosed
  exact ⟨hsettles, by decide +kernel, by decide +kernel, hover⟩

end ViewerHistory
end ModelPreview
