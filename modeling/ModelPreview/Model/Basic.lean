import ModelPreview.Geometry.UvRect
import ModelPreview.Geometry.Vector
import ModelPreview.SortedMap

/-!
# Block models

A model is an ordered list of cuboids, its elements.  Every element has up to six textured faces and
may be turned about an axis.  Textures are named by references or, after a `#`, by variables that
the model defines.

Main definitions:

- `Direction`, `Face`, `Faces`: the sides of a cuboid, always visited in one fixed order.
- `Element`, `Model`: cuboids and models.
- `Model.normalizePixelUvs`: texture rectangles from pixels to the unit square.
-/

namespace ModelPreview

/-- A side of a cuboid. -/
inductive Direction where
  /-- Towards positive `y`. -/
  | up
  /-- Towards negative `y`. -/
  | down
  /-- Towards negative `z`. -/
  | north
  /-- Towards positive `z`. -/
  | south
  /-- Towards positive `x`. -/
  | east
  /-- Towards negative `x`. -/
  | west
  deriving DecidableEq, Repr, Inhabited

namespace Direction

/-- The sides in the order in which they are visited. -/
def all : List Direction := [up, down, north, south, east, west]

/-- The name of a side. -/
def name : Direction → String
  | up => "up"
  | down => "down"
  | north => "north"
  | south => "south"
  | east => "east"
  | west => "west"

/-- The side with a given name. -/
def ofName? (s : String) : Option Direction := all.find? (·.name = s)

/-- The outward normal. -/
def normal [Scalar α] : Direction → Vec3 α
  | up => ⟨0, 1, 0⟩
  | down => ⟨0, -1, 0⟩
  | north => ⟨0, 0, -1⟩
  | south => ⟨0, 0, 1⟩
  | east => ⟨1, 0, 0⟩
  | west => ⟨-1, 0, 0⟩

theorem mem_all (d : Direction) : d ∈ all := by cases d <;> decide

end Direction

/-- A textured side. -/
structure Face where
  /-- Reference, variable or address of the texture. -/
  texture : String
  /-- The part of the texture shown; the whole texture if absent. -/
  uv : Option UvRect
  deriving DecidableEq, Repr, BEq

/-- The part of the texture a face shows. -/
def Face.uvOrFull (f : Face) : UvRect := f.uv.getD .full

/-- The faces of a cuboid; an absent one is not drawn. -/
structure Faces where
  /-- The face towards positive `y`. -/
  up : Option Face := none
  /-- The face towards negative `y`. -/
  down : Option Face := none
  /-- The face towards negative `z`. -/
  north : Option Face := none
  /-- The face towards positive `z`. -/
  south : Option Face := none
  /-- The face towards positive `x`. -/
  east : Option Face := none
  /-- The face towards negative `x`. -/
  west : Option Face := none
  deriving DecidableEq, Repr, Inhabited, BEq

namespace Faces

/-- The face on a side. -/
def get? (f : Faces) : Direction → Option Face
  | .up => f.up
  | .down => f.down
  | .north => f.north
  | .south => f.south
  | .east => f.east
  | .west => f.west

/-- Put a face on a side or remove it. -/
def set (f : Faces) (d : Direction) (face : Option Face) : Faces :=
  match d with
  | .up => { f with up := face }
  | .down => { f with down := face }
  | .north => { f with north := face }
  | .south => { f with south := face }
  | .east => { f with east := face }
  | .west => { f with west := face }

/-- The present faces in the order of the sides. -/
def toList (f : Faces) : List (Direction × Face) :=
  Direction.all.filterMap fun d => (f.get? d).map (d, ·)

/-- The number of present faces. -/
def size (f : Faces) : Nat := f.toList.length

/-- Whether no face is present. -/
def isEmpty (f : Faces) : Bool := f.size == 0

/-- Replace or drop every present face. -/
def filterMap (f : Faces) (visit : Direction → Face → Option Face) : Faces :=
  ⟨f.up.bind (visit .up), f.down.bind (visit .down), f.north.bind (visit .north),
    f.south.bind (visit .south), f.east.bind (visit .east), f.west.bind (visit .west)⟩

@[simp]
theorem get?_filterMap (f : Faces) (visit : Direction → Face → Option Face) (d : Direction) :
    (f.filterMap visit).get? d = (f.get? d).bind (visit d) := by cases d <;> rfl

end Faces

/-- A coordinate axis. -/
inductive Axis where
  /-- The first axis. -/
  | x
  /-- The second axis. -/
  | y
  /-- The third axis. -/
  | z
  deriving DecidableEq, Repr, Inhabited

namespace Axis

/-- The name of an axis. -/
def name : Axis → String
  | x => "x"
  | y => "y"
  | z => "z"

/-- The unit vector along an axis. -/
def unit [Scalar α] : Axis → Vec3 α
  | x => ⟨1, 0, 0⟩
  | y => ⟨0, 1, 0⟩
  | z => ⟨0, 0, 1⟩

end Axis

/-- A turn of an element about an axis through a point. -/
structure Rotation where
  /-- The point that stays in place. -/
  origin : Vec3 Float32
  /-- The direction of the axis. -/
  axis : Axis
  /-- The angle in degrees. -/
  angle : Float32
  /-- Whether the element is stretched back to its extent before the turn. -/
  rescale : Bool
  deriving DecidableEq, Repr, BEq

/-- A cuboid between two opposite corners, given in any order. -/
structure Element where
  /-- One corner. -/
  fromCorner : Vec3 Float32
  /-- The opposite corner. -/
  toCorner : Vec3 Float32
  /-- The faces that are drawn. -/
  faces : Faces := {}
  /-- The turn, if there is one. -/
  rotation : Option Rotation := none
  deriving DecidableEq, Repr, BEq

/-- A block model. -/
structure Model where
  /-- The cuboids in order. -/
  elements : List Element
  /-- The texture variables. -/
  textures : SortedMap String String := ∅
  deriving DecidableEq

namespace Model

/-- Equality of models that compares numbers by value, so that both zeros are equal and a NaN
differs from itself. -/
instance : BEq Model :=
  ⟨fun m n => m.elements == n.elements && m.textures.entries == n.textures.entries⟩

/-- The number of faces of all elements. -/
def faceCount (m : Model) : Nat := (m.elements.flatMap (·.faces.toList)).length

/-- Pixels along the edge of a block. -/
def pixelsPerBlock : Float32 := 16

/-- Turn the texture rectangle of a face from pixels into parts of the texture. -/
def normalizeFace (f : Face) : Face :=
  { f with uv := f.uv.map (·.mapSides (· / pixelsPerBlock)) }

/-- Turn all texture rectangles from pixels into parts of the texture. -/
def normalizePixelUvs (m : Model) : Model :=
  { m with elements := m.elements.map fun e =>
      { e with faces := e.faces.filterMap fun _ f => some (normalizeFace f) } }

end Model
end ModelPreview
