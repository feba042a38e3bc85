import ModelPreview.Files.Path
import ModelPreview.Files.System
import ModelPreview.Log
import ModelPreview.Model.Json

/-!
# Where models come from

A backend is asked for the model of a document and answers later.  Requests carry numbers, so that
answers may come in any order.  The file backend reads models from the file system.

Main definitions:

- `Request`, `Response`, `BackendError`: questions and answers.
- `loadModel`: the model of a document in the file system.
- `FileBackend`: answers every request from the file system.
-/

namespace ModelPreview

/-- The name under which models are requested. -/
def canonicalModelMethod : String := "blockview/canonicalModel"

/-- A request for the model of a document. -/
structure Request where
  /-- The number of the request. -/
  id : Nat
  /-- The document. -/
  uri : String
  deriving DecidableEq, Repr

/-- Why a backend has no model. -/
inductive BackendError where
  /-- The document is not known. -/
  | unknownDocument (uri : String)
  /-- The document cannot be read. -/
  | io (path : String) (cause : FileError)
  /-- The document is no model. -/
  | parse (cause : DecodeError)
  /-- The request failed for another reason. -/
  | failed (reason : String)
  deriving DecidableEq, Repr

/-- The text of a backend error. -/
def BackendError.message : BackendError → String
  | .unknownDocument uri => s!"no model known for {uri}"
  | .io path cause => s!"failed to read {path}: {cause.message}"
  | .parse cause => s!"invalid model JSON: {cause.message}"
  | .failed reason => s!"backend request failed: {reason}"

/-- The answer to a request. -/
structure Response where
  /-- The number of the request. -/
  id : Nat
  /-- The model, or why there is none. -/
  result : Except BackendError Model

/-! ## The written form of requests and answers -/

/-- The parameters of a request. -/
structure ModelParams where
  /-- The document. -/
  uri : String
  deriving DecidableEq, Repr

namespace ModelParams

/-- Parameters that are being read. -/
structure Draft where
  /-- The document, once read. -/
  uri : Option String := none

/-- How parameters are read. -/
def layout : Record Draft ModelParams where
  title := "struct CanonicalModelParams"
  fields := [.slot "uri" true .text (·.uri) fun s a => { s with uri := some a }]
  start := {}
  finish s := do return ⟨← Option.orMissing "uri" s.uri⟩

/-- Read parameters from text. -/
def ofText (text : String) : Except DecodeError ModelParams := Json.decodeText layout.decode text

/-- Write parameters as text. -/
def toText (p : ModelParams) : String := (Json.record [("uri", .text p.uri)]).render

end ModelParams

/-- The body of a successful answer. -/
structure ModelAnswer where
  /-- The model. -/
  model : Model

namespace ModelAnswer

/-- An answer that is being read. -/
structure Draft where
  /-- The model, once read. -/
  model : Option Model := none

/-- How an answer is read. -/
def layout : Record Draft ModelAnswer where
  title := "struct CanonicalModelResponse"
  fields := [.slot "model" true Model.decoder (·.model) fun s a => { s with model := some a }]
  start := {}
  finish s := do return ⟨← Option.orMissing "model" s.model⟩

/-- Read an answer from text. -/
def ofText (text : String) : Except DecodeError ModelAnswer := Json.decodeText layout.decode text

/-- Write an answer as text. -/
def toText (a : ModelAnswer) : String := (Json.record [("model", a.model.toJson)]).render

end ModelAnswer

/-! ## Models in files -/

/-- The model of a document: the file it names, with texture rectangles taken as pixels. -/
def loadModel (fs : FileSystem) (uri : String) : Except BackendError Model := do
  let path := Path.ofUri uri
  if fs.isFile path then
    let text ← (fs.readText path).mapError (.io path)
    let model ← (Model.ofText text).mapError .parse
    return model.normalizePixelUvs
  else .error (.unknownDocument uri)

/-- A backend that answers from the file system: the answers nobody has asked for yet. -/
structure FileBackend where
  /-- The answers, oldest first. -/
  completed : List Response := []

namespace FileBackend

/-- Take a request, which is answered at once. -/
def request (b : FileBackend) (fs : FileSystem) (r : Request) : Logged FileBackend := do
  Logged.debug s!"{canonicalModelMethod} #{r.id} {r.uri}"
  return ⟨b.completed ++ [⟨r.id, loadModel fs r.uri⟩]⟩

/-- Take the oldest answer. -/
def poll (b : FileBackend) : Option Response × FileBackend :=
  match b.completed with
  | [] => (none, b)
  | r :: rs => (some r, ⟨rs⟩)

end FileBackend
end ModelPreview
