import ModelPreview.Viewer.CommandLine

/-!
# Starting the viewer

Before the window opens the command line and the configuration are read, and there has to be a
document to show.
-/

namespace ModelPreview

/-- Why the viewer does not start. -/
inductive StartupError where
  /-- The command line is not understood. -/
  | commandLine (e : CommandLineError)
  /-- The configuration cannot be read. -/
  | config (e : ConfigError)
  /-- There is nothing to show. -/
  | noDocument
  deriving DecidableEq, Repr

/-- The error and its causes. -/
def StartupError.chain : StartupError → List String
  | .commandLine e => e.chain
  | .config e => e.chain
  | .noDocument =>
    ["No model to preview. Pass --model <file> or list documents in blockview.json."]

/-- What the viewer starts with. -/
structure Startup where
  /-- The configuration. -/
  config : Config
  /-- The directory that documents and textures are looked up in. -/
  workspace : String
  deriving DecidableEq, Repr

namespace Startup

/-- The configuration that a command line asks for, in a given workspace. -/
def loadConfig (fs : FileSystem) (cli : CommandLine) (workspace : String) :
    Logged (Except ConfigError Config) := do
  let loaded ←
    match cli.config with
    | some path => pure (Config.load fs path)
    | none => Config.loadOrDefault fs workspace
  return loaded.map (·.apply cli.overrides)

/-- Prepare the start of the viewer in the directory `cwd`. -/
def prepare (fs : FileSystem) (cwd : String) (args : List String) :
    Logged (Except StartupError Startup) := do
  match CommandLine.parse args with
  | .error e => return .error (.commandLine e)
  | .ok cli =>
    let workspace := cli.workspace.getD cwd
    match ← loadConfig fs cli workspace with
    | .error e => return .error (.config e)
    | .ok config =>
      if config.documents.isEmpty then return .error .noDocument
      else
        Logged.info s!"Starting model preview in {workspace}"
        return .ok ⟨config, workspace⟩

end Startup
end ModelPreview
