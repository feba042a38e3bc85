import ModelPreview.Model.Basic

/-!
# Finite models

A model can be turned into geometry if all its numbers are finite.  Validation reports the first
element with a number that is not, and the first such field of that element.
-/

namespace ModelPreview

/-- A field of an element that holds numbers. -/
inductive NumericField where
  /-- The first corner. -/
  | fromCorner
  /-- The second corner. -/
  | toCorner
  /-- The fixed point of the turn. -/
  | rotationOrigin
  /-- The angle of the turn. -/
  | rotationAngle
  /-- The texture rectangle of a face. -/
  | faceUv
  deriving DecidableEq, Repr

/-- The name of a field in a model file. -/
def NumericField.path : NumericField → String
  | .fromCorner => "from"
  | .toCorner => "to"
  | .rotationOrigin => "rotation.origin"
  | .rotationAngle => "rotation.angle"
  | .faceUv => "faces.uv"

/-- A number of a model that is not finite: the index of its element and its field. -/
structure NonFinite where
  /-- Position of the element in the model. -/
  element : Nat
  /-- The field that holds the number. -/
  field : NumericField
  deriving DecidableEq, Repr

/-- The text of a validation error. -/
def NonFinite.message (e : NonFinite) : String :=
  s!"element {e.element}: non-finite value in `{e.field.path}`"

/-- Whether all coordinates are finite. -/
def Vec3.isFinite (v : Vec3 Float32) : Bool := v.x.isFinite && v.y.isFinite && v.z.isFinite

/-- Whether all sides are finite. -/
def UvRect.isFinite (r : UvRect) : Bool :=
  r.u0.isFinite && r.v0.isFinite && r.u1.isFinite && r.v1.isFinite

/-- The first field of an element with a number that is not finite. -/
def Element.firstNonFinite? (e : Element) : Option NumericField :=
  if !e.fromCorner.isFinite then some .fromCorner
  else if !e.toCorner.isFinite then some .toCorner
  else if e.rotation.any (!·.origin.isFinite) then some .rotationOrigin
  else if e.rotation.any (!·.angle.isFinite) then some .rotationAngle
  else if e.faces.toList.any (fun f => f.2.uv.any (!·.isFinite)) then some .faceUv
  else none

/-- Check the elements of a list, the first of which has the given index. -/
def validateElements (index : Nat) : List Element → Except NonFinite Unit
  | [] => .ok ()
  | e :: es =>
    match e.firstNonFinite? with
    | some field => .error ⟨index, field⟩
    | none => validateElements (index + 1) es

/-- Check that all numbers of a model are finite. -/
def Model.validate (m : Model) : Except NonFinite Unit := validateElements 0 m.elements

end ModelPreview
