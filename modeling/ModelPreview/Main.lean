import ModelPreview.Viewer.Tour

/-!
# The command line of the viewer

Reads the files that a tour through the documents needs, makes the tour, and prints what the panel
says about each document.  Log lines and errors go to standard error.
-/

namespace ModelPreview

/-- A file that was looked for, and what was found. -/
abbrev FoundFile := String × Except FileError ByteArray

/-- Look for a file. -/
def lookFor (path : String) : IO FoundFile := do
  try
    return (path, .ok (← IO.FS.readBinFile path))
  catch e =>
    match e with
    | .noFileOrDirectory .. => return (path, .error .notFound)
    | .inappropriateType .. => return (path, .error .isDirectory)
    | e => return (path, .error (.other (toString e)))

/-- The files that were found, as a file system. -/
def foundFiles (found : List FoundFile) : FileSystem where
  isFile path := found.any fun f => f.1 = path && f.2.isOk
  read path := (found.lookup path).getD (.error .notFound)

/-- Print log lines, details left out. -/
def printLog (lines : List LogLine) : IO Unit := do
  for l in lines do
    if l.level ≠ .debug then IO.eprintln s!"[{l.level.name}] {l.text}"

/-- Print an error and its causes. -/
def printError (e : StartupError) : IO Unit := do
  match e.chain with
  | [] => pure ()
  | message :: causes =>
    IO.eprintln s!"Error: {message}"
    for cause in causes do
      IO.eprintln s!"Caused by: {cause}"

/-- Start with the given arguments, the first of which is the name of the program. -/
def start (args : List String) : IO UInt32 := do
  let cwd := (← IO.currentDir).toString
  let cli := (CommandLine.parse args).toOption.getD {}
  let config ← lookFor (Tour.configPath cli cwd)
  let prepared := Startup.prepare (foundFiles [config]) cwd args
  printLog prepared.log
  match prepared.value with
  | .error e =>
    printError e
    return 1
  | .ok s =>
    let documents ← (Tour.documentPaths s).mapM lookFor
    let textures ← (Tour.texturePaths (foundFiles documents) s).eraseDups.mapM lookFor
    let tour := Tour.visit (foundFiles (documents ++ textures)) s
    printLog tour.log
    for stop in tour.value do
      IO.println s!"{stop.document}: {stop.status}"
    return 0

end ModelPreview

/-- The program. -/
def main (args : List String) : IO UInt32 := ModelPreview.start ("viewer" :: args)
