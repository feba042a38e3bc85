import ModelPreview.Json.Decode
import ModelPreview.Model.Basic

/-!
# The written form of models

Models are written without the parts that are absent or empty and read by the rules for structures.
-/

namespace ModelPreview

/-! ## Writing -/

/-- Three numbers. -/
def Vec3.toJson (v : Vec3 Float32) : Json := .list (v.toList.map .single)

/-- Four numbers. -/
def UvRect.toJson (r : UvRect) : Json := .list (r.toList.map .single)

/-- A face. -/
def Face.toJson (f : Face) : Json :=
  .record (("texture", .text f.texture) :: (f.uv.map fun r => ("uv", r.toJson)).toList)

/-- The present faces under their names. -/
def Faces.toJson (f : Faces) : Json :=
  .record (f.toList.map fun (d, face) => (d.name, face.toJson))

/-- A rotation. -/
def Rotation.toJson (r : Rotation) : Json :=
  .record [("origin", r.origin.toJson), ("axis", .text r.axis.name), ("angle", .single r.angle),
    ("rescale", .bool r.rescale)]

/-- An element. -/
def Element.toJson (e : Element) : Json :=
  .record ([("from", e.fromCorner.toJson), ("to", e.toCorner.toJson), ("faces", e.faces.toJson)]
    ++ (e.rotation.map fun r => ("rotation", r.toJson)).toList)

/-- A model; texture variables are written if there are any. -/
def Model.toJson (m : Model) : Json :=
  .record (("elements", .list (m.elements.map Element.toJson))
    :: if m.textures.isEmpty then []
       else [("textures", .record (m.textures.entries.map fun (k, v) => (k, .text v)))])

/-! ## Reading -/

/-- The decoder of three numbers. -/
def Vec3.decoder : Decoder (Vec3 Float32) := .triple .single Vec3.mk

/-- The decoder of four numbers. -/
def UvRect.decoder : Decoder UvRect := .quadruple .single UvRect.mk

/-- A face that is being read. -/
structure Face.Draft where
  /-- The texture, once read. -/
  texture : Option String := none
  /-- The texture rectangle, once read. -/
  uv : Option (Option UvRect) := none

/-- How a face is read. -/
def Face.layout : Record Face.Draft Face where
  title := "struct Face"
  fields := [
    .slot "texture" true .text (·.texture) fun s a => { s with texture := some a },
    .slot "uv" false (.option UvRect.decoder) (·.uv) fun s a => { s with uv := some a }]
  start := {}
  finish s := do return ⟨← Option.orMissing "texture" s.texture, s.uv.join⟩

/-- The decoder of a face. -/
def Face.decoder : Decoder Face := Face.layout.decode

/-- Faces that are being read. -/
structure Faces.Draft where
  /-- The face towards positive `y`, once read. -/
  up : Option (Option Face) := none
  /-- The face towards negative `y`, once read. -/
  down : Option (Option Face) := none
  /-- The face towards negative `z`, once read. -/
  north : Option (Option Face) := none
  /-- The face towards positive `z`, once read. -/
  south : Option (Option Face) := none
  /-- The face towards positive `x`, once read. -/
  east : Option (Option Face) := none
  /-- The face towards negative `x`, once read. -/
  west : Option (Option Face) := none

/-- How the faces of an element are read. -/
def Faces.layout : Record Faces.Draft Faces where
  title := "struct Faces"
  fields := [
    .slot "up" false (.option Face.decoder) (·.up) fun s a => { s with up := some a },
    .slot "down" false (.option Face.decoder) (·.down) fun s a => { s with down := some a },
    .slot "north" false (.option Face.decoder) (·.north) fun s a => { s with north := some a },
    .slot "south" false (.option Face.decoder) (·.south) fun s a => { s with south := some a },
    .slot "east" false (.option Face.decoder) (·.east) fun s a => { s with east := some a },
    .slot "west" false (.option Face.decoder) (·.west) fun s a => { s with west := some a }]
  start := {}
  finish s := .ok ⟨s.up.join, s.down.join, s.north.join, s.south.join, s.east.join, s.west.join⟩

/-- The decoder of the faces of an element. -/
def Faces.decoder : Decoder Faces := Faces.layout.decode

/-- The decoder of an axis: its name, or an object with its name as key and `null` as value. -/
def Axis.decoder : Decoder Axis :=
  .tagged ["x", "y", "z"] fun name body => do
    if let some j := body then Decoder.unit j
    return if name = "x" then .x else if name = "y" then .y else .z

/-- A rotation that is being read. -/
structure Rotation.Draft where
  /-- The fixed point, once read. -/
  origin : Option (Vec3 Float32) := none
  /-- The axis, once read. -/
  axis : Option Axis := none
  /-- The angle, once read. -/
  angle : Option Float32 := none
  /-- Whether to stretch, once read. -/
  rescale : Option Bool := none

/-- How a rotation is read. -/
def Rotation.layout : Record Rotation.Draft Rotation where
  title := "struct Rotation"
  fields := [
    .slot "origin" true Vec3.decoder (·.origin) fun s a => { s with origin := some a },
    .slot "axis" true Axis.decoder (·.axis) fun s a => { s with axis := some a },
    .slot "angle" true .single (·.angle) fun s a => { s with angle := some a },
    .slot "rescale" false .bool (·.rescale) fun s a => { s with rescale := some a }]
  start := {}
  finish s := do
    return ⟨← Option.orMissing "origin" s.origin, ← Option.orMissing "axis" s.axis,
      ← Option.orMissing "angle" s.angle, s.rescale.getD false⟩

/-- The decoder of a rotation. -/
def Rotation.decoder : Decoder Rotation := Rotation.layout.decode

/-- An element that is being read. -/
structure Element.Draft where
  /-- One corner, once read. -/
  fromCorner : Option (Vec3 Float32) := none
  /-- The opposite corner, once read. -/
  toCorner : Option (Vec3 Float32) := none
  /-- The faces, once read. -/
  faces : Option Faces := none
  /-- The turn, once read. -/
  rotation : Option (Option Rotation) := none

/-- How an element is read. -/
def Element.layout : Record Element.Draft Element where
  title := "struct Element"
  fields := [
    .slot "from" true Vec3.decoder (·.fromCorner) fun s a => { s with fromCorner := some a },
    .slot "to" true Vec3.decoder (·.toCorner) fun s a => { s with toCorner := some a },
    .slot "faces" false Faces.decoder (·.faces) fun s a => { s with faces := some a },
    .slot "rotation" false (.option Rotation.decoder) (·.rotation)
      fun s a => { s with rotation := some a }]
  start := {}
  finish s := do
    return ⟨← Option.orMissing "from" s.fromCorner, ← Option.orMissing "to" s.toCorner,
      s.faces.getD {}, s.rotation.join⟩

/-- The decoder of an element. -/
def Element.decoder : Decoder Element := Element.layout.decode

/-- A model that is being read. -/
structure Model.Draft where
  /-- The cuboids, once read. -/
  elements : Option (List Element) := none
  /-- The texture variables, once read. -/
  textures : Option (SortedMap String String) := none

/-- How a model is read. -/
def Model.layout : Record Model.Draft Model where
  title := "struct Model"
  fields := [
    .slot "elements" true (.list Element.decoder) (·.elements)
      fun s a => { s with elements := some a },
    .slot "textures" false (.entries .text SortedMap.insert ∅) (·.textures)
      fun s a => { s with textures := some a }]
  start := {}
  finish s := do return ⟨← Option.orMissing "elements" s.elements, s.textures.getD ∅⟩

/-- The decoder of a model. -/
def Model.decoder : Decoder Model := Model.layout.decode

/-- Read a model from text. -/
def Model.ofText (text : String) : Except DecodeError Model := Json.decodeText Model.decoder text

/-- Write a model as text. -/
def Model.toText (m : Model) : String := m.toJson.render

end ModelPreview
