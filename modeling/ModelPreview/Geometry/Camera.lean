import ModelPreview.Geometry.Bounds

/-!
# The orbiting camera

The camera circles a target at some distance.  Its view and projection are matrices given by their
columns.

Main definitions:

- `Matrix4`: matrices, with `Matrix4.lookAt`, `Matrix4.perspective` and multiplication.
- `Camera`: the camera, with its moves `orbit`, `dolly`, `frame` and `setAspect`.
-/

namespace ModelPreview

/-- A column of a matrix. -/
structure Vec4 where
  /-- First entry. -/
  x : Float32
  /-- Second entry. -/
  y : Float32
  /-- Third entry. -/
  z : Float32
  /-- Fourth entry. -/
  w : Float32
  deriving DecidableEq, Repr, Inhabited

namespace Vec4

instance : Add Vec4 := ⟨fun a b => ⟨a.x + b.x, a.y + b.y, a.z + b.z, a.w + b.w⟩⟩

/-- The column scaled by a number. -/
def scale (a : Vec4) (t : Float32) : Vec4 := ⟨a.x * t, a.y * t, a.z * t, a.w * t⟩

/-- The entries in order. -/
def toList (a : Vec4) : List Float32 := [a.x, a.y, a.z, a.w]

end Vec4

/-- A matrix of four columns. -/
structure Matrix4 where
  /-- First column. -/
  c0 : Vec4
  /-- Second column. -/
  c1 : Vec4
  /-- Third column. -/
  c2 : Vec4
  /-- Fourth column. -/
  c3 : Vec4
  deriving DecidableEq, Repr, Inhabited

namespace Matrix4

/-- The identity. -/
def identity : Matrix4 := ⟨⟨1, 0, 0, 0⟩, ⟨0, 1, 0, 0⟩, ⟨0, 0, 1, 0⟩, ⟨0, 0, 0, 1⟩⟩

/-- The image of a column. -/
def apply (m : Matrix4) (v : Vec4) : Vec4 :=
  m.c0.scale v.x + m.c1.scale v.y + m.c2.scale v.z + m.c3.scale v.w

instance : Mul Matrix4 := ⟨fun m n => ⟨m.apply n.c0, m.apply n.c1, m.apply n.c2, m.apply n.c3⟩⟩

/-- The entries column by column. -/
def toList (m : Matrix4) : List Float32 :=
  m.c0.toList ++ m.c1.toList ++ m.c2.toList ++ m.c3.toList

/-- The view from `eye` towards `target`, the second axis pointing up. -/
def lookAt (eye target : Vec3 Float32) : Matrix4 :=
  let f := (target - eye).normalize
  let s := (f.cross ⟨0, 1, 0⟩).normalize
  let u := s.cross f
  ⟨⟨s.x, u.x, -f.x, 0⟩, ⟨s.y, u.y, -f.y, 0⟩, ⟨s.z, u.z, -f.z, 0⟩,
    ⟨-eye.dot s, -eye.dot u, eye.dot f, 1⟩⟩

/-- The projection with a vertical opening angle, for depths from zero to one. -/
def perspective (fovY aspect near far : Float32) : Matrix4 :=
  let a := 0.5 * fovY
  let h := a.cos / a.sin
  let w := h / aspect
  let r := far / (near - far)
  ⟨⟨w, 0, 0, 0⟩, ⟨0, h, 0, 0⟩, ⟨0, 0, r, -1⟩, ⟨0, 0, r * near, 0⟩⟩

end Matrix4

/-- A camera that circles its target. -/
structure Camera where
  /-- The point looked at. -/
  target : Vec3 Float32
  /-- Turn about the vertical axis. -/
  yaw : Float32
  /-- Height above the target, as an angle. -/
  pitch : Float32
  /-- Distance from the target. -/
  distance : Float32
  /-- Vertical opening angle. -/
  fovY : Float32
  /-- Width of the picture over its height. -/
  aspect : Float32
  /-- Nearest depth seen. -/
  near : Float32
  /-- Farthest depth seen. -/
  far : Float32
  deriving DecidableEq, Repr, Inhabited

namespace Camera

/-- The pitch stays short of straight up and straight down. -/
def maxPitch : Float32 := Float32.ofBits 0x3fc90fdb - 0.01

/-- The camera in its first position, a three-quarter view of the origin. -/
def initial (aspect : Float32) : Camera where
  target := 0
  yaw := .ofBits 0x3f490fdb
  pitch := .ofBits 0x3f060a92
  distance := 2
  fovY := Single.radians 45
  aspect := aspect
  near := 0.1
  far := 100

/-- Where the camera stands. -/
def position (c : Camera) : Vec3 Float32 :=
  let d : Vec3 Float32 :=
    ⟨c.pitch.cos * c.yaw.sin, c.pitch.sin, c.pitch.cos * c.yaw.cos⟩
  c.target + d.scale c.distance

/-- The view matrix. -/
def view (c : Camera) : Matrix4 := .lookAt c.position c.target

/-- The projection matrix. -/
def projection (c : Camera) : Matrix4 := .perspective c.fovY c.aspect c.near c.far

/-- The matrix handed to the vertex stage. -/
def viewProjection (c : Camera) : Matrix4 := c.projection * c.view

/-- Change the aspect; a ratio that is no positive number is ignored. -/
def setAspect (c : Camera) (aspect : Float32) : Camera :=
  if Scalar.isPositive aspect then { c with aspect := aspect } else c

/-- Turn about the target. -/
def orbit (c : Camera) (yaw pitch : Float32) : Camera :=
  { c with
    yaw := c.yaw + yaw
    pitch := Single.clamp (c.pitch + pitch) (-maxPitch) maxPitch }

/-- Move away from the target, or towards it by a negative amount, but not through it. -/
def dolly (c : Camera) (amount : Float32) : Camera :=
  { c with distance := Scalar.greatest (c.distance + amount) (c.near * 2) }

/-- Look at a box from a distance that keeps it in view; the empty box changes nothing. -/
def frame (c : Camera) (b : Bounds) : Camera :=
  if b.isEmpty then c
  else
    let distance := Scalar.greatest b.diagonal 1e-3 * 1.5
    { c with
      target := b.center
      distance := distance
      near := distance * 0.01
      far := distance * 20 }

end Camera
end ModelPreview
