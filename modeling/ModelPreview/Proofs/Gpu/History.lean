import Mathlib
import ModelPreview.Proofs.Gpu.Emission
import ModelPreview.Proofs.Render.Calls

/-!
# What the graphics backend can do

The backend is used in any order, and before every use the device may have changed its mind about what
it will answer.  A history keeps, for every use, the answer of the backend and the calls it made to the
device.  What one use can do is said once, case by case; every other fact about histories is derived
from this list.

Main definitions:

- `Gpu.BackendOp` and `Gpu.Backend.perform`: the uses of the backend.
- `Gpu.History`: the backend after some uses, with what they did.
- `Gpu.Moves`: what a use can do.

Main results:

- `Gpu.Backend.performed_perform`: the cases are all there are.
-/

namespace ModelPreview
namespace Gpu

/-! ## Uses and their history -/

/-- A use of the backend. -/
inductive BackendOp where
  /-- Get ready to draw. -/
  | setup (size : Extent)
  /-- Draw in another size. -/
  | resize (size : Extent)
  /-- Replace the model. -/
  | upload (mesh : Mesh) (atlas : Atlas)
  /-- Draw the model. -/
  | draw (camera : Camera)
  /-- Give back everything. -/
  | release

/-- The use that a call answers. -/
def opOf : BackendCall → BackendOp
  | .setup size _ => .setup size
  | .resize size => .resize size
  | .upload mesh atlas _ => .upload mesh atlas
  | .draw camera _ => .draw camera
  | .release => .release

namespace Backend

/-- A backend that has not been used. -/
def unused (clear : Color) : Backend where
  device := { environment := { adapter := none } }
  clearColor := clear

/-- The backend before a use: the device answers as the environment says, and all calls made so far
have been looked at. -/
def facing (b : Backend) (environment : Environment) : Backend :=
  { b with device := { b.device with environment := environment, calls := #[] } }

/-- Use the backend; its answer is returned. -/
def perform (b : Backend) : BackendOp → Logged (BackendCall × Backend)
  | .setup size => do
    let (answer, b) ← b.setup size
    return (.setup size answer, b)
  | .resize size => do
    let (_, b) ← b.resize size
    return (.resize size, b)
  | .upload mesh atlas => do
    let (answer, b) ← b.upload mesh atlas
    return (.upload mesh atlas answer, b)
  | .draw camera => do
    let (answer, b) ← b.draw camera
    return (.draw camera answer, b)
  | .release => do
    let (_, b) ← b.release
    return (.release, b)

end Backend

/-- What a use did. -/
structure Entry where
  /-- The use and its answer. -/
  call : BackendCall
  /-- The calls to the device. -/
  calls : List Call

/-- The calls to the device along some uses. -/
def log (entries : List Entry) : List Call := entries.flatMap Entry.calls

/-- The backend after some uses. -/
structure History where
  /-- The backend. -/
  backend : Backend
  /-- What the uses did, oldest first. -/
  entries : List Entry := []

namespace History

/-- One more use, with what the device will answer. -/
def step (h : History) (request : Environment × BackendOp) : History :=
  let (call, b) := ((h.backend.facing request.1).perform request.2).value
  ⟨b, h.entries ++ [⟨call, b.device.calls.toList⟩]⟩

/-- The history of a list of uses. -/
def run (h : History) (requests : List (Environment × BackendOp)) : History := requests.foldl step h

end History

/-! ## What a use can do -/

/-- What a use can do between two states: its answer and the calls it makes. -/
inductive Moves : Option State → BackendCall → List Call → Option State → Prop where
  | setupAgain (s : State) (size : Extent) : Moves (some s) (.setup size (.ok ())) [] (some s)
  | setupFailed (size : Extent) (e : RenderError) (calls : List Call) :
    Moves none (.setup size (.error e)) calls none
  | setupDone {s : State} {size : Extent} {calls : List Call} (h : s.Prepared size calls) :
    Moves none (.setup size (.ok ())) calls (some s)
  | notResized (size : Extent) : Moves none (.resize size) [] none
  | resizeIgnored (s : State) {size : Extent} (h : size.isEmpty = true) :
    Moves (some s) (.resize size) [] (some s)
  | resized (s : State) {size : Extent} (h : size.isEmpty = false) (texture view : Nat) :
    Moves (some s) (.resize size)
      (.configure { s.config with size := size } :: depthCalls size texture view)
      (some { s with config := { s.config with size := size }, depthView := view })
  | notUploaded (mesh : Mesh) (atlas : Atlas) :
    Moves none (.upload mesh atlas (.error .notReady)) [] none
  | uploaded {s s' : State} {mesh : Mesh} {atlas : Atlas} {calls : List Call}
      (h : s.Uploaded mesh atlas s' calls) :
    Moves (some s) (.upload mesh atlas (.ok ())) calls (some s')
  | notDrawn (camera : Camera) : Moves none (.draw camera (.error .notReady)) [] none
  | drawn {s s' : State} {clear : Color} {camera : Camera} {answer : Except RenderError Nat}
      {calls : List Call} (h : s.Drawn clear camera (s', answer) calls) :
    Moves (some s) (.draw camera answer) calls (some s')
  | released (state : Option State) : Moves state .release [] none

namespace Backend

/-- What a use of a backend led to: one of the moves, and objects with new numbers. -/
structure Performed (b : Backend) (op : BackendOp) (r : BackendCall × Backend) : Prop where
  op : opOf r.1 = op
  moves : Moves b.state r.1 r.2.device.calls.toList r.2.state
  numbered : Numbered b.device.counters r.2.device.calls.toList r.2.device.counters

variable (b : Backend) (environment : Environment)

@[simp]
theorem state_facing : (b.facing environment).state = b.state := rfl

@[simp]
theorem clearColor_facing : (b.facing environment).clearColor = b.clearColor := rfl

/-- The calls on a device whose calls have been looked at are those of the action. -/
theorem emitted {α : Type} {action : DeviceM α} {P : α → List Call → Prop}
    (h : Emits action P) {a : α} {device : Device}
    (hvalue : (action.run (b.facing environment).device).value = (a, device)) :
    P a device.calls.toList ∧ Numbered b.device.counters device.calls.toList device.counters := by
  obtain ⟨new, hissues, hP⟩ := h (b.facing environment).device
  rw [hvalue] at hissues hP
  have hcalls : device.calls.toList = new := hissues.calls
  exact ⟨hcalls ▸ hP, hcalls ▸ hissues.numbered⟩

/-- A use that leaves the device alone. -/
theorem performed_idle {op : BackendOp} {call : BackendCall} {state : Option State}
    (hop : opOf call = op) (hmoves : Moves b.state call [] state) :
    b.Performed op (call, { b.facing environment with state := state }) :=
  ⟨hop, hmoves, .nil _⟩

theorem performed_setup (size : Extent) :
    b.Performed (.setup size) ((b.facing environment).perform (.setup size)).value := by
  cases hstate : b.state with
  | some s =>
    have hvalue : ((b.facing environment).perform (.setup size)).value =
        (.setup size (.ok ()), { b.facing environment with state := some s }) := by
      simp [perform, setup, facing, hstate]
    rw [hvalue]
    exact b.performed_idle environment rfl (hstate ▸ .setupAgain s size)
  | none =>
    rcases hinit : ((init size).run (b.facing environment).device).value with ⟨result, device⟩
    obtain ⟨hprepared, hnumbered⟩ := b.emitted environment (emits_init size) hinit
    cases result with
    | error e =>
      have hvalue : ((b.facing environment).perform (.setup size)).value =
          (.setup size (.error e), { b.facing environment with device := device }) := by
        simp [perform, setup, onDevice, hstate, hinit]
      rw [hvalue]
      exact ⟨rfl, by simpa [hstate] using .setupFailed size e device.calls.toList, hnumbered⟩
    | ok s =>
      have hvalue : ((b.facing environment).perform (.setup size)).value =
          (.setup size (.ok ()),
            { b.facing environment with device := device, state := some s }) := by
        simp [perform, setup, onDevice, hstate, hinit]
      rw [hvalue]
      exact ⟨rfl, by simpa [hstate] using .setupDone (hprepared s rfl), hnumbered⟩

theorem performed_resize (size : Extent) :
    b.Performed (.resize size) ((b.facing environment).perform (.resize size)).value := by
  cases hstate : b.state with
  | none =>
    have hvalue : ((b.facing environment).perform (.resize size)).value =
        (.resize size, { b.facing environment with state := none }) := by
      simp [perform, resize, facing, hstate]
    rw [hvalue]
    exact b.performed_idle environment rfl (hstate ▸ .notResized size)
  | some s =>
    cases hempty : size.isEmpty with
    | true =>
      have hvalue : ((b.facing environment).perform (.resize size)).value =
          (.resize size, { b.facing environment with state := some s }) := by
        simp [perform, resize, facing, hstate, hempty]
      rw [hvalue]
      exact b.performed_idle environment rfl (hstate ▸ .resizeIgnored s hempty)
    | false =>
      rcases hrun : (State.reconfigure { s with config := { s.config with size := size } }
        |>.run (b.facing environment).device).value with ⟨s', device⟩
      obtain ⟨⟨texture, view, rfl, hcalls⟩, hnumbered⟩ :=
        b.emitted environment (State.emits_reconfigure _) hrun
      have hvalue : ((b.facing environment).perform (.resize size)).value =
          (.resize size, { b.facing environment with
            device := device
            state := some
              { s with config := { s.config with size := size }, depthView := view } }) := by
        simp [perform, resize, onDevice, hstate, hempty, hrun]
      rw [hvalue]
      exact ⟨rfl, by simpa [hstate, hcalls] using .resized s hempty texture view, hnumbered⟩

theorem performed_upload (mesh : Mesh) (atlas : Atlas) :
    b.Performed (.upload mesh atlas) ((b.facing environment).perform (.upload mesh atlas)).value := by
  cases hstate : b.state with
  | none =>
    have hvalue : ((b.facing environment).perform (.upload mesh atlas)).value =
        (.upload mesh atlas (.error .notReady), { b.facing environment with state := none }) := by
      simp [perform, upload, facing, hstate]
    rw [hvalue]
    exact b.performed_idle environment rfl (hstate ▸ .notUploaded mesh atlas)
  | some s =>
    rcases hrun : ((s.upload mesh atlas).run (b.facing environment).device).value with ⟨s', device⟩
    obtain ⟨huploaded, hnumbered⟩ := b.emitted environment (s.emits_upload mesh atlas) hrun
    have hvalue : ((b.facing environment).perform (.upload mesh atlas)).value =
        (.upload mesh atlas (.ok ()),
          { b.facing environment with device := device, state := some s' }) := by
      simp [perform, upload, onDevice, hstate, hrun]
    rw [hvalue]
    exact ⟨rfl, by simpa [hstate] using .uploaded huploaded, hnumbered⟩

theorem performed_draw (camera : Camera) :
    b.Performed (.draw camera) ((b.facing environment).perform (.draw camera)).value := by
  cases hstate : b.state with
  | none =>
    have hvalue : ((b.facing environment).perform (.draw camera)).value =
        (.draw camera (.error .notReady), { b.facing environment with state := none }) := by
      simp [perform, draw, facing, hstate]
    rw [hvalue]
    exact b.performed_idle environment rfl (hstate ▸ .notDrawn camera)
  | some s =>
    rcases hrun : ((s.draw b.clearColor camera).run (b.facing environment).device).value with
      ⟨⟨s', answer⟩, device⟩
    obtain ⟨hdrawn, hnumbered⟩ := b.emitted environment (s.emits_draw b.clearColor camera) hrun
    have hvalue : ((b.facing environment).perform (.draw camera)).value =
        (.draw camera answer, { b.facing environment with device := device, state := some s' }) := by
      simp [perform, draw, onDevice, hstate, hrun]
    rw [hvalue]
    exact ⟨rfl, by simpa [hstate] using .drawn hdrawn, hnumbered⟩

theorem performed_release :
    b.Performed .release ((b.facing environment).perform .release).value := by
  have hvalue : ((b.facing environment).perform .release).value =
      (.release, { b.facing environment with state := none }) := by
    cases hstate : b.state with
    | none => simp [perform, release, hstate]
    | some s => simp [perform, release, hstate]
  rw [hvalue]
  exact b.performed_idle environment rfl (.released b.state)

/-- Every use does one of the things listed, whatever the device answers. -/
theorem performed_perform (op : BackendOp) :
    b.Performed op ((b.facing environment).perform op).value := by
  cases op with
  | setup size => exact b.performed_setup environment size
  | resize size => exact b.performed_resize environment size
  | upload mesh atlas => exact b.performed_upload environment mesh atlas
  | draw camera => exact b.performed_draw environment camera
  | release => exact b.performed_release environment

end Backend
end Gpu
end ModelPreview
