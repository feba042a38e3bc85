/-!
# Paths

Paths are texts with slashes.  Joining and naming follow the rules of the file system and never look
at files.
-/

namespace ModelPreview
namespace Path

/-- Whether a path starts at the root of the file system. -/
def isAbsolute (p : String) : Bool := p.toList.head? == some '/'

/-- A path below another one; an absolute path stays as it is. -/
def join (base p : String) : String :=
  if isAbsolute p || base = "" then p
  else if base.toList.getLast? = some '/' then base ++ p
  else base ++ "/" ++ p

/-- The pieces of a path between its slashes, empty ones included. -/
def pieces (p : String) : List String := (p.toList.splitOn '/').map String.ofList

/-- The last piece of a path that names something; none if it is `..` or there is none. -/
def fileName? (p : String) : Option String :=
  match ((pieces p).filter fun c => c ≠ "" ∧ c ≠ ".").getLast? with
  | some ".." => none
  | c => c

/-- An address without the scheme of local files. -/
def ofUri (uri : String) : String :=
  match uri.toList with
  | 'f' :: 'i' :: 'l' :: 'e' :: ':' :: '/' :: '/' :: rest => String.ofList rest
  | _ => uri

end Path
end ModelPreview
