/-!
# Reading files

The file system is seen through two questions: whether a path names a file, and what the file holds.
-/

namespace ModelPreview

/-- Why a file cannot be read. -/
inductive FileError where
  /-- There is nothing under the path. -/
  | notFound
  /-- The path names a directory. -/
  | isDirectory
  /-- The path goes through something that is no directory. -/
  | notDirectory
  /-- A name in the path is too long. -/
  | nameTooLong
  /-- The path holds a zero character. -/
  | zeroInName
  /-- The file is not text. -/
  | notUtf8
  /-- Another cause. -/
  | other (text : String)
  deriving DecidableEq, Repr

/-- The text of a file error. -/
def FileError.message : FileError → String
  | .notFound => "No such file or directory (os error 2)"
  | .isDirectory => "Is a directory (os error 21)"
  | .notDirectory => "Not a directory (os error 20)"
  | .nameTooLong => "File name too long (os error 36)"
  | .zeroInName => "file name contained an unexpected NUL byte"
  | .notUtf8 => "stream did not contain valid UTF-8"
  | .other text => text

/-- A file system. -/
structure FileSystem where
  /-- Whether a path names a file. -/
  isFile : String → Bool
  /-- The contents of a file. -/
  read : String → Except FileError ByteArray

/-- The contents of a file as text. -/
def FileSystem.readText (fs : FileSystem) (path : String) : Except FileError String := do
  match String.fromUTF8? (← fs.read path) with
  | some text => return text
  | none => .error .notUtf8

end ModelPreview
