import ModelPreview.Render.Recorder
import ModelPreview.Viewer.App
import ModelPreview.Viewer.Startup

/-!
# A tour through the documents

Without a screen the viewer can still show every document once to a renderer that only takes notes.
The tour tells what its panel would have said about each of them.

Main definitions:

- `Tour.configPath`, `Tour.documentPaths`, `Tour.texturePaths`: the files a tour needs.
- `Tour.visit`: the tour.
-/

namespace ModelPreview
namespace Tour

/-- The configuration file that a command line asks for. -/
def configPath (cli : CommandLine) (cwd : String) : String :=
  cli.config.getD (Path.join (cli.workspace.getD cwd) configFileName)

/-- The files of the documents. -/
def documentPaths (s : Startup) : List String :=
  s.config.documents.map fun d => Path.ofUri (Path.join s.workspace d)

/-- The files of the textures of the documents that can be read. -/
def texturePaths (fs : FileSystem) (s : Startup) : List String :=
  (documentPaths s).flatMap fun path =>
    match loadModel fs path with
    | .error _ => []
    | .ok m =>
      let resolved := (m.resolve s.workspace).value.model
      resolved.elements.flatMap fun e => e.faces.toList.map fun f => Path.ofUri f.2.texture

/-- A document and what the panel shows about it. -/
structure Stop where
  /-- The document. -/
  document : String
  /-- What the panel shows. -/
  status : String

/-- What the panel shows now. -/
def stop (a : App Recorder) : Stop :=
  ⟨(a.controller.document? App.panel).getD "", (a.status?.map PreviewStatus.text).getD ""⟩

/-- Show the current document and then as many more as given. -/
def visitNext (a : App Recorder) : Nat → Logged (List Stop)
  | 0 => do return [stop (← a.pump Recorder.handle)]
  | n + 1 => do
    let a ← a.pump Recorder.handle
    let rest ← visitNext (← a.cycleDocument) n
    return stop a :: rest

/-- Show every document once. -/
def visit (fs : FileSystem) (s : Startup) : Logged (List Stop) := do
  let a : App Recorder := .create s.config s.workspace fs
  match a.document? with
  | none => return []
  | some document =>
    let size : Extent := ⟨s.config.window.width, s.config.window.height⟩
    let (a, _) ← a.openPreview {} size document
    visitNext a (a.documents.length - 1)

end Tour
end ModelPreview
