import ModelPreview.Files.Path
import ModelPreview.Files.System
import ModelPreview.Json.Decode
import ModelPreview.Log
import ModelPreview.Render.Color

/-!
# Configuration

The configuration is read from a file in the workspace; every part of it may be left out.  Values
given on the command line replace those of the file.

Main definitions:

- `Config.load` and `Config.loadOrDefault`: reading the file.
- `Config.apply`: overriding values.
-/

namespace ModelPreview

/-- The name of the configuration file in a workspace. -/
def configFileName : String := "blockview.json"

/-- Title and size of the window. -/
structure WindowConfig where
  /-- The title. -/
  title : String := "Model Preview"
  /-- The width in pixels. -/
  width : UInt32 := 800
  /-- The height in pixels. -/
  height : UInt32 := 800
  deriving DecidableEq, Repr

/-- The configuration of the viewer. -/
structure Config where
  /-- The window. -/
  window : WindowConfig := {}
  /-- The colour behind the model. -/
  clearColor : Color := ⟨0, 0, 0, 1⟩
  /-- The documents to show, relative to the workspace. -/
  documents : List String := []
  deriving DecidableEq, Repr

/-- Values that replace those of the file. -/
structure Overrides where
  /-- The width, if given. -/
  width : Option UInt32 := none
  /-- The height, if given. -/
  height : Option UInt32 := none
  /-- The documents; none are given by an empty list. -/
  documents : List String := []
  deriving DecidableEq, Repr

/-- Why the configuration cannot be read. -/
inductive ConfigError where
  /-- The file cannot be read. -/
  | io (path : String) (cause : FileError)
  /-- The file is no configuration. -/
  | parse (path : String) (cause : DecodeError)
  deriving DecidableEq, Repr

namespace ConfigError

/-- The text of the cause. -/
def causeText : ConfigError → String
  | io _ cause => cause.message
  | parse _ cause => cause.message

/-- The text of the error. -/
def message (e : ConfigError) : String :=
  match e with
  | io path _ => s!"failed to read config {path}: {e.causeText}"
  | parse path _ => s!"invalid config {path}: {e.causeText}"

/-- The error and its cause. -/
def chain (e : ConfigError) : List String := [e.message, e.causeText]

end ConfigError

/-! ## Reading -/

/-- A window configuration that is being read. -/
structure WindowConfig.Draft where
  /-- The title, once read. -/
  title : Option String := none
  /-- The width, once read. -/
  width : Option UInt32 := none
  /-- The height, once read. -/
  height : Option UInt32 := none

/-- How a window configuration is read. -/
def WindowConfig.layout : Record WindowConfig.Draft WindowConfig where
  title := "struct WindowConfig"
  fields := [
    .slot "title" false .text (·.title) fun s a => { s with title := some a },
    .slot "width" false .word32 (·.width) fun s a => { s with width := some a },
    .slot "height" false .word32 (·.height) fun s a => { s with height := some a }]
  start := {}
  finish s :=
    let d : WindowConfig := {}
    .ok ⟨s.title.getD d.title, s.width.getD d.width, s.height.getD d.height⟩

/-- A configuration that is being read. -/
structure Config.Draft where
  /-- The window, once read. -/
  window : Option WindowConfig := none
  /-- The colour, once read. -/
  clearColor : Option Color := none
  /-- The documents, once read. -/
  documents : Option (List String) := none

/-- How a configuration is read. -/
def Config.layout : Record Config.Draft Config where
  title := "struct PreviewConfig"
  fields := [
    .slot "window" false WindowConfig.layout.decode (·.window) fun s a => { s with window := some a },
    .slot "clear_color" false (.quadruple .double Color.mk) (·.clearColor)
      fun s a => { s with clearColor := some a },
    .slot "documents" false (.list .text) (·.documents) fun s a => { s with documents := some a }]
  start := {}
  finish s :=
    let d : Config := {}
    .ok ⟨s.window.getD d.window, s.clearColor.getD d.clearColor, s.documents.getD d.documents⟩

namespace Config

/-- Read a configuration from text. -/
def ofText (text : String) : Except DecodeError Config := Json.decodeText layout.decode text

/-- Read a configuration from a file. -/
def load (fs : FileSystem) (path : String) : Except ConfigError Config := do
  let text ← (fs.readText path).mapError (.io path)
  (ofText text).mapError (.parse path)

/-- Read the configuration of a workspace; the default one if there is no file. -/
def loadOrDefault (fs : FileSystem) (workspace : String) : Logged (Except ConfigError Config) := do
  let path := Path.join workspace configFileName
  if fs.isFile path then return load fs path
  else
    Logged.debug s!"No {configFileName} in {workspace}, using defaults"
    return .ok {}

/-- Replace values; a size is at least one. -/
def apply (c : Config) (o : Overrides) : Config where
  window := {
    c.window with
    width := (o.width.map (max 1)).getD c.window.width
    height := (o.height.map (max 1)).getD c.window.height }
  clearColor := c.clearColor
  documents := if o.documents.isEmpty then c.documents else o.documents

end Config
end ModelPreview
