import ModelPreview.Files.Path
import ModelPreview.Files.System

/-!
# Directory trees

A file system given by the contents of one working directory.  Outside of it nothing is known to
exist.

Main definitions:

- `FileTree.insert`: add a file or directory with its parents.
- `FileTree.find`: what a path names.
- `FileTree.system`: the tree as a file system.
-/

namespace ModelPreview

/-- A file or a directory. -/
inductive FileTree where
  /-- A file with its contents. -/
  | file (bytes : ByteArray)
  /-- A directory with its entries. -/
  | dir (entries : List (String × FileTree))

namespace FileTree

/-- The empty directory. -/
def empty : FileTree := .dir []

/-- Replace the entry of a name or add one. -/
def setEntry (name : String) (t : FileTree) : List (String × FileTree) → List (String × FileTree)
  | [] => [(name, t)]
  | (n, u) :: rest => if n = name then (name, t) :: rest else (n, u) :: setEntry name t rest

/-- The entries of a directory; a file has none. -/
def entries : FileTree → List (String × FileTree)
  | .file _ => []
  | .dir es => es

/-- Put something under a path, creating the directories on the way. -/
def insert (t : FileTree) (new : FileTree) : List String → FileTree
  | [] => new
  | name :: rest =>
    let child := (t.entries.lookup name).getD empty
    .dir (setEntry name (child.insert new rest) t.entries)

/-- How long a single name may be. -/
def maxNameBytes : Nat := 255

/-- How long a whole path may be. -/
def maxPathBytes : Nat := 4095

/-- Where a walk through the tree stands: inside, with the directories above, or outside. -/
inductive Place where
  /-- At a node of the tree. -/
  | inside (node : FileTree) (above : List FileTree)
  /-- Above the working directory. -/
  | outside

/-- Walk one piece of a path further. -/
def Place.enter (piece : String) : Place → Except FileError Place
  | .outside =>
    if piece = "" ∨ piece = "." ∨ piece = ".." then .ok .outside
    else if maxNameBytes < piece.utf8ByteSize then .error .nameTooLong
    else .error .notFound
  | .inside (.file _) _ => .error .notDirectory
  | .inside (.dir es) above =>
    if piece = "" ∨ piece = "." then .ok (.inside (.dir es) above)
    else if piece = ".." then
      match above with
      | [] => .ok .outside
      | d :: ds => .ok (.inside d ds)
    else if maxNameBytes < piece.utf8ByteSize then .error .nameTooLong
    else
      match es.lookup piece with
      | some t => .ok (.inside t (.dir es :: above))
      | none => .error .notFound

/-- The pieces of a path below the working directory, whose own name is `cwd`; none for other
absolute paths. -/
def relative? (cwd path : String) : Option (List String) :=
  let own := Path.pieces cwd
  let pieces := Path.pieces path
  if own.isPrefixOf pieces then some (pieces.drop own.length)
  else if Path.isAbsolute path then none
  else some pieces

/-- What a path names. -/
def find (t : FileTree) (cwd path : String) : Except FileError Place :=
  if path = "" then .error .notFound
  else if path.toList.contains '\x00' then .error .zeroInName
  else if maxPathBytes < path.utf8ByteSize then .error .nameTooLong
  else
    match relative? cwd path with
    | some pieces => pieces.foldlM (fun p c => p.enter c) (.inside t [])
    | none => (Path.pieces path).foldlM (fun p c => p.enter c) .outside

/-- The tree as a file system, under the name of its working directory. -/
def system (t : FileTree) (cwd : String) : FileSystem where
  isFile path :=
    match t.find cwd path with
    | .ok (.inside (.file _) _) => true
    | _ => false
  read path := do
    match ← t.find cwd path with
    | .inside (.file bytes) _ => return bytes
    | _ => .error .isDirectory

end FileTree
end ModelPreview
