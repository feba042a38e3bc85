import ModelPreview.Log
import ModelPreview.Model.Basic
import ModelPreview.Text.Quoted
import ModelPreview.Texture.Reference

/-!
# Resolving the textures of a model

A face names its texture by a reference or by a variable, which may stand for another variable.
Resolving a model replaces every texture by its address and drops the faces for which there is none.

Main definitions:

- `followVariables`: the reference behind a variable.
- `Model.resolve`: the resolved model, the number of dropped faces, and a log line for each.
-/

namespace ModelPreview

/-- How many variables may stand between a face and its reference. -/
def maxVariableDepth : Nat := 16

/-- The name of the variable a text stands for, if it starts with `#`. -/
def variableName? (raw : String) : Option String :=
  match raw.toList with
  | '#' :: name => some (String.ofList name)
  | _ => none

/-- Follow variables until a reference is reached, looking at no more texts than given. -/
def followVariables (table : SortedMap String String) : Nat → String → Option String
  | 0, _ => none
  | n + 1, raw =>
    match variableName? raw with
    | none => some raw
    | some name => (table.find? name).bind (followVariables table n)

namespace Model

/-- The reference behind the texture of a face; `none` if a variable is unknown or there are too
many of them. -/
def lookupVariable (m : Model) (raw : String) : Option String :=
  followVariables m.textures (maxVariableDepth + 1) raw

/-- The address of a texture of the model. -/
def textureUri? (m : Model) (root : String) (texture : String) : Option String :=
  ((m.lookupVariable texture).bind TextureRef.parse?).map (·.uri root)

/-- A face with the address of its texture. -/
def resolveFace? (m : Model) (root : String) (f : Face) : Option Face :=
  (m.textureUri? root f.texture).map fun uri => { f with texture := uri }

/-- The faces without an address: index of the element, side and face. -/
def unresolved (m : Model) (root : String) : List (Nat × Direction × Face) :=
  m.elements.zipIdx.flatMap fun (e, i) =>
    (e.faces.toList.filter fun f => (m.resolveFace? root f.2).isNone).map fun f => (i, f)

end Model

/-- A model whose textures are addresses. -/
structure ResolvedModel where
  /-- The model. -/
  model : Model
  /-- The number of faces that had no address. -/
  dropped : Nat

/-- The log line about a dropped face. -/
def droppedLine (index : Nat) (d : Direction) (f : Face) : LogLine :=
  ⟨.debug, s!"Dropping {d.name} face of element {index}: unresolvable texture "
    ++ Text.quoted f.texture⟩

/-- Resolve all textures of a model; the result has no variables. -/
def Model.resolve (m : Model) (root : String) : Logged ResolvedModel where
  value := {
    model := {
      elements := m.elements.map fun e =>
        { e with faces := e.faces.filterMap fun _ f => m.resolveFace? root f } }
    dropped := (m.unresolved root).length }
  log := (m.unresolved root).map fun (i, d, f) => droppedLine i d f

end ModelPreview
