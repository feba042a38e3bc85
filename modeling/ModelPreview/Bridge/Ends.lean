import ModelPreview.Bridge.Host
import ModelPreview.Bridge.Surface

/-!
# Both ends of a link

Each end of a link is at first bare, may be turned into a bridge, and may go away.  This
module describes the two ends together and what the operations on them do, one at a time.

Main definitions:

- `HostEnd.step` and `SurfaceEnd.step`: one operation on one end.
- `Ends.step`: one operation on a link with both its ends.
-/

namespace ModelPreview

/-- The form of the controller's end. -/
inductive HostEnd (κ : Type) where
  /-- The bare end of the link. -/
  | bare
  /-- A bridge. -/
  | bridge (b : HostBridge κ)
  /-- Nothing. -/
  | gone

/-- The form of the surface's end. -/
inductive SurfaceEnd where
  /-- The bare end of the link. -/
  | bare
  /-- A bridge. -/
  | bridge (s : SurfaceBridge)
  /-- Nothing. -/
  | gone
  deriving DecidableEq, Repr

/-- What an operation returns. -/
inductive Outcome where
  /-- It was carried out. -/
  | done
  /-- The text received, if any. -/
  | received (payload : Option String)
  /-- A truth value. -/
  | flag (b : Bool)
  /-- A count. -/
  | count (n : Nat)
  /-- It failed. -/
  | failed (e : ProtocolError)
  /-- The end does not have the form that the operation asks for. -/
  | refused

/-- The outcome of something that returns nothing. -/
def Outcome.ofUnit : Except ProtocolError Unit → Outcome
  | .ok _ => .done
  | .error e => .failed e

/-- The outcome of something that returns a count. -/
def Outcome.ofCount : Except ProtocolError Nat → Outcome
  | .ok n => .count n
  | .error e => .failed e

/-- Post a text from an end. -/
def postOutcome (l : Link) (s : Side) (payload : String) : Link × Outcome :=
  match l.post s payload with
  | some l => (l, .done)
  | none => (l, .failed .disconnected)

/-- An operation on the controller's end. -/
inductive HostOp (κ : Type) where
  /-- Post a text. -/
  | post (payload : String)
  /-- Receive a text. -/
  | receive
  /-- Ask whether the surface is there. -/
  | connected
  /-- Turn the bare end into a bridge. -/
  | wrap
  /-- Send a message. -/
  | send (m : RenderMessage)
  /-- Register a callback. -/
  | onReady (k : κ)
  /-- Handle what the surface has posted. -/
  | pump
  /-- Go away. -/
  | drop

/-- An operation on the surface's end. -/
inductive SurfaceOp where
  /-- Post a text. -/
  | post (payload : String)
  /-- Receive a text. -/
  | receive
  /-- Ask whether the controller is there. -/
  | connected
  /-- Turn the bare end into a bridge. -/
  | wrap
  /-- Install a handler. -/
  | attach
  /-- Announce the surface. -/
  | ready
  /-- Deliver what waits. -/
  | pump
  /-- Go away. -/
  | drop

/-- What an operation on the controller's end leads to. -/
structure HostOutcome (κ : Type) where
  /-- The end afterwards. -/
  state : HostEnd κ
  /-- The link afterwards. -/
  link : Link
  /-- What is returned. -/
  outcome : Outcome
  /-- The callbacks that ran. -/
  fired : List κ := []

/-- What an operation on the surface's end leads to. -/
structure SurfaceOutcome where
  /-- The end afterwards. -/
  state : SurfaceEnd
  /-- The link afterwards. -/
  link : Link
  /-- What is returned. -/
  outcome : Outcome
  /-- The models handed to the handler. -/
  received : List Model := []

/-- The outcome of an operation of a bridge. -/
def HostStep.toOutcome (s : HostStep κ α) (f : Except ProtocolError α → Outcome) : HostOutcome κ :=
  ⟨.bridge s.bridge, s.link, f s.result, s.fired⟩

namespace HostEnd

/-- One operation on the controller's end. -/
def step (e : HostEnd κ) (l : Link) : HostOp κ → Logged (HostOutcome κ)
  | .drop =>
    match e with
    | gone => return ⟨gone, l, .done, []⟩
    | _ => return ⟨gone, l.close .host, .done, []⟩
  | op => do
    match e, op with
    | bare, .post p =>
      let (l, r) := postOutcome l .host p
      return ⟨bare, l, r, []⟩
    | bare, .receive => return ⟨bare, (l.receive .host).2, .received (l.receive .host).1, []⟩
    | bare, .connected => return ⟨bare, l, .flag (l.isConnected .host), []⟩
    | bare, .wrap => return ⟨bridge {}, l, .done, []⟩
    | bridge b, .send m => return (← b.send l m).toOutcome .ofUnit
    | bridge b, .onReady k => return (b.onReady l k).toOutcome .ofUnit
    | bridge b, .pump => return (← b.pump l).toOutcome .ofCount
    | e, _ => return ⟨e, l, .refused, []⟩

end HostEnd

namespace SurfaceEnd

/-- One operation on the surface's end; its handler collects the models. -/
def step (e : SurfaceEnd) (l : Link) : SurfaceOp → Logged SurfaceOutcome
  | .drop =>
    match e with
    | gone => return ⟨gone, l, .done, []⟩
    | _ => return ⟨gone, l.close .surface, .done, []⟩
  | op => do
    match e, op with
    | bare, .post p =>
      let (l, r) := postOutcome l .surface p
      return ⟨bare, l, r, []⟩
    | bare, .receive => return ⟨bare, (l.receive .surface).2, .received (l.receive .surface).1, []⟩
    | bare, .connected => return ⟨bare, l, .flag (l.isConnected .surface), []⟩
    | bare, .wrap => return ⟨bridge {}, l, .done, []⟩
    | bridge s, .attach => return ⟨bridge s.attach, l, .done, []⟩
    | bridge s, .ready =>
      let (s, l, r) := s.signalReady l
      return ⟨bridge s, l, .ofUnit r, []⟩
    | bridge s, .pump =>
      let (l, models, n) ← s.pump l (fun ms m => return ms ++ [m.model]) []
      return ⟨bridge s, l, .count n, models⟩
    | e, _ => return ⟨e, l, .refused, []⟩

end SurfaceEnd

/-- A link with both its ends. -/
structure Ends (κ : Type) where
  /-- The link. -/
  link : Link := .fresh
  /-- The controller's end. -/
  host : HostEnd κ := .bare
  /-- The surface's end. -/
  surface : SurfaceEnd := .bare

/-- What an operation on one of the ends leads to. -/
structure EndsOutcome (κ : Type) where
  /-- Link and ends afterwards. -/
  state : Ends κ
  /-- What is returned. -/
  outcome : Outcome
  /-- The callbacks that ran. -/
  fired : List κ := []
  /-- The models handed to the handler. -/
  received : List Model := []

/-- One operation on one of the two ends. -/
def Ends.step (e : Ends κ) : HostOp κ ⊕ SurfaceOp → Logged (EndsOutcome κ)
  | .inl op => do
    let r ← e.host.step e.link op
    return { state := { e with host := r.state, link := r.link }, outcome := r.outcome, fired := r.fired }
  | .inr op => do
    let r ← e.surface.step e.link op
    return { state := { e with surface := r.state, link := r.link }, outcome := r.outcome,
             received := r.received }

end ModelPreview
