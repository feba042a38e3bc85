import ModelPreview.Gpu.Call

/-!
# The graphics device

The device is seen from outside: it records the calls and answers as its environment says.  Answers
about errors and frames come from lists, one after the other; behind the end of a list there are no
errors.

Main definitions:

- `Gpu.Environment`: the answers to come.
- `Gpu.Device`: environment, counters and recorded calls.
- `Gpu.DeviceM`: actions on the device, with `record`, `create`, `popErrorScope` and `acquireFrame`.
-/

namespace ModelPreview
namespace Gpu

/-- What the device will answer. -/
structure Environment where
  /-- The name of the hardware; none if there is no hardware. -/
  adapter : Option String
  /-- The formats of the surface. -/
  formats : List TextureFormat := []
  /-- The ways in which the surface uses opacity. -/
  alphaModes : List AlphaMode := []
  /-- Why the window cannot be drawn on, if it cannot. -/
  surfaceError : Option String := none
  /-- Why the hardware cannot be used, if it cannot. -/
  deviceError : Option String := none
  /-- The errors that will be collected. -/
  scopes : List (Option String) := []
  /-- The answers to questions for frames. -/
  frames : List FrameAnswer := []

/-- The device: its environment and what has been asked of it. -/
structure Device where
  /-- The answers to come. -/
  environment : Environment
  /-- The objects created. -/
  counters : Counters := {}
  /-- The calls, oldest first. -/
  calls : Array Call := #[]

/-- Actions on the device. -/
abbrev DeviceM := StateT Device Logged

/-- Record a call. -/
def record (c : Call) : DeviceM Unit := modify fun d => { d with calls := d.calls.push c }

/-- Create an object; its number is handed to the call. -/
def create (kind : ResourceKind) (call : Nat → Call) : DeviceM Nat := do
  let d ← get
  let id := d.counters.count kind + 1
  set { d with counters := d.counters.bump kind, calls := d.calls.push (call id) }
  return id

/-- Ask for the error collected since the last `pushErrorScope`. -/
def popErrorScope : DeviceM (Option String) := do
  let d ← get
  let error := d.environment.scopes.head?.join
  let environment := { d.environment with scopes := d.environment.scopes.tail }
  set { d with environment := environment, calls := d.calls.push (.popErrorScope error) }
  return error

/-- Ask for the next frame. -/
def acquireFrame : DeviceM (Except FrameError Nat) := do
  let d ← get
  let answer := d.environment.frames.head?.join
  let environment := { d.environment with frames := d.environment.frames.tail }
  let asked := { d with environment := environment, calls := d.calls.push (.acquireFrame answer) }
  match answer with
  | some e =>
    set asked
    return .error e
  | none =>
    set { asked with counters := d.counters.bump .texture }
    return .ok (d.counters.count .texture + 1)

end Gpu
end ModelPreview
