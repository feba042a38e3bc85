import ModelPreview.Model.Json
import ModelPreview.Model.Validation

/-!
# Messages between controller and surface

Both directions carry JSON objects whose only key names the kind of message.  A model that comes in
is validated before anyone sees it.

Main definitions:

- `RenderMessage.encode` and `RenderMessage.decode`: messages to the surface.
- `SurfaceMessage.encode` and `SurfaceMessage.decode`: messages from the surface.
-/

namespace ModelPreview

/-- The version of the protocol. -/
def protocolVersion : UInt32 := 1

/-- What can go wrong between the two ends. -/
inductive ProtocolError where
  /-- A payload cannot be decoded. -/
  | malformed (e : DecodeError)
  /-- A payload holds a model with numbers that are not finite. -/
  | invalidModel (e : NonFinite)
  /-- The surface speaks another version. -/
  | versionMismatch (expected found : UInt32)
  /-- The other end is gone. -/
  | disconnected
  deriving DecidableEq, Repr

/-- The text of a protocol error. -/
def ProtocolError.message : ProtocolError → String
  | .malformed e => s!"malformed payload: {e.message}"
  | .invalidModel e => s!"invalid model: {e.message}"
  | .versionMismatch expected found =>
    s!"render surface speaks protocol version {found}, expected {expected}"
  | .disconnected => "the other end of the bridge is closed"

/-- A message to the surface. -/
inductive RenderMessage where
  /-- Draw a model whose textures are addresses. -/
  | renderModel (model : Model)

namespace RenderMessage

/-- The model to draw. -/
def model : RenderMessage → Model
  | renderModel m => m

/-- Messages are compared like their models, numbers by value. -/
instance : BEq RenderMessage := ⟨fun a b => a.model == b.model⟩

/-- The body of a message that is being read. -/
structure Draft where
  /-- The model, once read. -/
  model : Option Model := none

/-- How the body of a message is read. -/
def layout : Record Draft RenderMessage where
  title := "struct variant RenderMessage::RenderModel"
  fields := [.slot "model" true Model.decoder (·.model) fun s a => { s with model := some a }]
  start := {}
  finish s := do return .renderModel (← Option.orMissing "model" s.model)

/-- The decoder of a message. -/
def decoder : Decoder RenderMessage :=
  .tagged ["RenderModel"] fun _ body =>
    match body with
    | some j => layout.decode j
    | none => .error .bareVariant

/-- The payload of a message. -/
def encode : RenderMessage → String
  | renderModel m => (Json.record [("RenderModel", .record [("model", m.toJson)])]).render

/-- Read and validate a payload. -/
def decode (payload : String) : Except ProtocolError RenderMessage := do
  let message ← (Json.decodeText decoder payload).mapError .malformed
  message.model.validate.mapError .invalidModel
  return message

end RenderMessage

/-- A message from the surface. -/
inductive SurfaceMessage where
  /-- The surface is set up and speaks the given version. -/
  | ready (version : UInt32)
  deriving DecidableEq, Repr

namespace SurfaceMessage

/-- The message of a surface that speaks the current version. -/
def current : SurfaceMessage := ready protocolVersion

/-- The body of a message that is being read. -/
structure Draft where
  /-- The version, once read. -/
  version : Option UInt32 := none

/-- How the body of a message is read. -/
def layout : Record Draft SurfaceMessage where
  title := "struct variant SurfaceMessage::Ready"
  fields := [.slot "version" true .word32 (·.version) fun s a => { s with version := some a }]
  start := {}
  finish s := do return .ready (← Option.orMissing "version" s.version)

/-- The decoder of a message. -/
def decoder : Decoder SurfaceMessage :=
  .tagged ["Ready"] fun _ body =>
    match body with
    | some j => layout.decode j
    | none => .error .bareVariant

/-- The payload of a message. -/
def encode : SurfaceMessage → String
  | ready version => (Json.record [("Ready", .record [("version", .nat version.toNat)])]).render

/-- Read a payload. -/
def decode (payload : String) : Except ProtocolError SurfaceMessage :=
  (Json.decodeText decoder payload).mapError .malformed

end SurfaceMessage
end ModelPreview
