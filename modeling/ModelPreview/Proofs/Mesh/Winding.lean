import Mathlib
import ModelPreview.Proofs.Geometry.Rotation
import ModelPreview.Proofs.Mesh.Buffers

/-!
# Faces are wound outward

The two triangles of a face take their corners from the vertices of the face in the order of its
indices.  Before the element is turned, the vector product of two edges of each has the product of the
two extents of the face as its scalar product with the outward normal.  A stretch scales the extents,
and a turn moves vector products and normals alike.  So in exact arithmetic the triangles of every
face that has an area run counter-clockwise for whoever looks against its normal, whatever the turn of
the element.

Main definitions:

- `Turn` and `Turn.transform`: what decides the transform of an element.
- `Triangle.winding`: the direction from which a triangle runs counter-clockwise.
- `trianglesOf`: the triangles that are drawn.

Main results:

- `Element.transform_eq`: the transform of every element is that of a turn, if it is turned at all.
- `Mesh.ShowsFace.triangles`: the triangles of a face in the buffers.
- `Direction.dot_winding`: the triangles of a box that is not turned.
- `Direction.winding_pos`: the triangles of a box that is turned.
- `Mesh.faces_wind_outward`: the triangles of a face run counter-clockwise.
-/

namespace ModelPreview

/-! ## Turns -/

/-- The turn of an element: sine and cosine of half its angle, and what the two other axes are
divided by, if they are stretched. -/
structure Turn (α : Type u) where
  /-- The axis. -/
  axis : Axis
  /-- The point that stays in place. -/
  origin : Vec3 α
  /-- The sine of half the angle. -/
  sine : α
  /-- The cosine of half the angle. -/
  cosine : α
  /-- The number whose inverse is the factor of the stretch. -/
  shrunk : Option α

section

variable {α : Type u} [Scalar α]

/-- The transform of a turn. -/
def Turn.transform (r : Turn α) : Transform α where
  origin := r.origin
  rotor := .about r.axis.unit r.sine r.cosine
  scale := match r.shrunk with
    | none => .splat 1
    | some c => Transform.stretch r.axis c

/-- The transform of an element that may be turned. -/
def Transform.ofTurn : Option (Turn α) → Transform α
  | none => .identity
  | some r => r.transform

end

/-- The turn of an element. -/
def Element.turn (e : Element) : Option (Turn Float32) :=
  e.rotation.map fun r =>
    let half := Single.radians r.angle * 0.5
    let c := (Single.radians r.angle).cos.abs
    ⟨r.axis, r.origin, half.sin, half.cos, if r.rescale && Single.epsilon < c then some c else none⟩

theorem Element.transform_eq (e : Element) : e.transform = .ofTurn e.turn := by
  unfold transform turn
  cases e.rotation with
  | none => rfl
  | some r =>
    simp only [Option.map_some, Transform.ofTurn, Rotation.transform, Turn.transform,
      Rotation.stretch]
    split <;> rfl

/-! ## Triangles -/

/-- A triangle. -/
structure Triangle (α : Type u) where
  /-- The first corner. -/
  first : Vec3 α
  /-- The second corner. -/
  second : Vec3 α
  /-- The third corner. -/
  third : Vec3 α

/-- The vector product of two edges; a triangle runs counter-clockwise seen from where it points. -/
def Triangle.winding [Scalar α] (p : Triangle α) : Vec3 α :=
  (p.second - p.first).cross (p.third - p.first)

/-- The triangles drawn for points and indices, three indices for each. -/
def trianglesOf (points : List (Vec3 α)) : List Nat → List (Triangle α)
  | i :: j :: k :: rest =>
    match points[i]?, points[j]?, points[k]? with
    | some p, some q, some r => ⟨p, q, r⟩ :: trianglesOf points rest
    | _, _, _ => trianglesOf points rest
  | _ => []

/-- The triangle of the images of the corners. -/
def Triangle.map (f : Vec3 α → Vec3 β) (p : Triangle α) : Triangle β :=
  ⟨f p.first, f p.second, f p.third⟩

/-- The indices of a face split its four corners into two triangles. -/
theorem trianglesOf_faceIndices (p q r s : Vec3 α) :
    trianglesOf [p, q, r, s] ((faceIndices 0).map UInt16.toNat) = [⟨p, q, r⟩, ⟨p, r, s⟩] := rfl

/-- The triangles drawn for a side of the box between two opposite corners, moved by a transform. -/
def Direction.triangles [Scalar α] (a b : Vec3 α) (t : Transform α) (d : Direction) :
    List (Triangle α) :=
  trianglesOf (d.corners.map (boxCorner a b t)) ((faceIndices 0).map UInt16.toNat)

theorem Direction.exists_corners_eq [Scalar α] (a b : Vec3 α) (t : Transform α) (d : Direction) :
    ∃ tl bl br tr, d.corners.map (boxCorner a b t) = [tl, bl, br, tr] ∧
      d.triangles a b t = [⟨tl, bl, br⟩, ⟨tl, br, tr⟩] := by
  cases d <;> exact ⟨_, _, _, _, rfl, rfl⟩

/-- The triangles that a mesh draws for a face are those of its side. -/
theorem Mesh.ShowsFace.triangles {m : Mesh} {k : Nat} {p : PlacedFace} (h : m.ShowsFace k p) :
    trianglesOf (m.vertices.toList.map Vertex.position)
        (((m.indices.toList.drop (6 * k)).take 6).map UInt16.toNat) =
      p.dir.triangles p.element.fromCorner p.element.toCorner (.ofTurn p.element.turn) := by
  have hcorner (j : Nat) (hj : j < 4) : (m.vertices.toList.map Vertex.position)[4 * k + j]? =
      (p.dir.corners.map
        (boxCorner p.element.fromCorner p.element.toCorner p.element.transform))[j]? := by
    rw [← h.positions, List.getElem?_map, List.getElem?_map, List.getElem?_take_of_lt hj,
      List.getElem?_drop]
  have hfirst := hcorner 0 (by decide)
  rw [Nat.add_zero] at hfirst
  rw [h.indices, ← Element.transform_eq]
  simp only [trianglesOf, hfirst, hcorner 1 (by decide), hcorner 2 (by decide),
    hcorner 3 (by decide)]
  cases p.dir <;> rfl

/-! ## Boxes -/

/-- The triangles drawn for a side of a box that is not moved. -/
def Direction.boxTriangles (lo hi : Vec3 α) (d : Direction) : List (Triangle α) :=
  trianglesOf (d.corners.map (cornerOf lo hi)) ((faceIndices 0).map UInt16.toNat)

theorem Direction.triangles_eq_map [Scalar α] (a b : Vec3 α) (t : Transform α) (d : Direction) :
    d.triangles a b t = (d.boxTriangles (a.least b) (a.greatest b)).map (.map t.point) := by
  cases d <;> rfl

/-- The two extents of a side are not zero. -/
def Direction.Spans (a b : Vec3 α) : Direction → Prop
  | .up | .down => a.x ≠ b.x ∧ a.z ≠ b.z
  | .north | .south => a.x ≠ b.x ∧ a.y ≠ b.y
  | .east | .west => a.y ≠ b.y ∧ a.z ≠ b.z

/-- The product of the two extents of a side. -/
def Direction.area [Scalar α] (v : Vec3 α) : Direction → α
  | .up | .down => v.x * v.z
  | .north | .south => v.x * v.y
  | .east | .west => v.y * v.z

section

variable {α : Type u} [Field α] [LinearOrder α] {root : α → α}

theorem Direction.dot_normal_normal (d : Direction) :
    (d.normal : Vec3 (Exact α root)).dot d.normal = 1 := by
  cases d <;> simp [normal]

/-- The triangles of a box that is only stretched are wound towards the normal of their side. -/
theorem Direction.dot_winding (lo hi s : Vec3 (Exact α root)) (d : Direction) :
    ∀ p ∈ d.boxTriangles lo hi, (p.map (· * s)).winding.dot d.normal = d.area ((hi - lo) * s) := by
  obtain ⟨x, y, z⟩ := lo
  obtain ⟨x', y', z'⟩ := hi
  obtain ⟨a, b, c⟩ := s
  cases d <;>
    simp +decide only [boxTriangles, corners, cornerOf, List.map_cons, List.map_nil, if_true,
      if_false, trianglesOf_faceIndices, List.forall_mem_cons, List.not_mem_nil, false_imp_iff,
      implies_true, and_true, Triangle.map, Triangle.winding, normal, area, Vec3.mk_mul_mk,
      Vec3.mk_sub_mk, Vec3.cross_mk, Vec3.dot_mk] <;>
    constructor <;> ring

/-! ## Transforms -/

/-- A turn in exact arithmetic: the sine and the cosine belong to an angle, and the stretch is
positive. -/
structure Turn.IsExact (r : Turn (Exact α root)) : Prop where
  circle : r.sine * r.sine + r.cosine * r.cosine = 1
  positive : ∀ c ∈ r.shrunk, 0 < c

/-- The transforms that keep the orientation of triangles. -/
structure Transform.Upright (t : Transform (Exact α root)) : Prop where
  norm : t.rotor.norm = 1
  positive : 0 < t.scale.x ∧ 0 < t.scale.y ∧ 0 < t.scale.z

theorem Transform.point_sub_point (t : Transform (Exact α root)) (p q : Vec3 (Exact α root)) :
    t.point p - t.point q = t.rotor.rotate (p * t.scale - q * t.scale) := by
  rw [point, point, Vec3.add_sub_add, Rotor.rotate_sub, Vec3.sub_mul_sub, Vec3.sub_sub_sub,
    Vec3.sub_mul_sub]

variable {t : Transform (Exact α root)}

theorem Transform.Upright.winding_map (h : t.Upright) (p : Triangle (Exact α root)) :
    (p.map t.point).winding = t.rotor.rotate (p.map (· * t.scale)).winding := by
  simp only [Triangle.winding, Triangle.map, point_sub_point, Rotor.cross_rotate, h.norm,
    Vec3.scale_one]

variable [IsStrictOrderedRing α]

theorem Transform.upright_ofTurn {turn : Option (Turn (Exact α root))}
    (h : ∀ r ∈ turn, r.IsExact) : (ofTurn turn).Upright := by
  have hsplat : 0 < (Vec3.splat 1 : Vec3 (Exact α root)).x ∧
      0 < (Vec3.splat 1 : Vec3 (Exact α root)).y ∧ 0 < (Vec3.splat 1 : Vec3 (Exact α root)).z :=
    ⟨one_pos, one_pos, one_pos⟩
  cases turn with
  | none => exact ⟨Rotor.norm_identity, hsplat⟩
  | some r =>
    obtain ⟨hcircle, hpositive⟩ := h r rfl
    obtain ⟨axis, origin, sine, cosine, shrunk⟩ := r
    constructor
    · have haxis : (axis.unit : Vec3 (Exact α root)).dot axis.unit = 1 := by
        cases axis <;> simp [Axis.unit]
      exact (Rotor.norm_about haxis sine cosine).trans hcircle
    · cases shrunk with
      | none => exact hsplat
      | some c =>
        have hc : 0 < c := hpositive c rfl
        cases axis <;> simp [ofTurn, Turn.transform, stretch, Axis.unit, Vec3.map, hc]

theorem Transform.Upright.normal_eq (h : t.Upright) (hroot : root 1 = 1) {n : Vec3 (Exact α root)}
    (hn : n.dot n = 1) : t.normal n = t.rotor.rotate n := by
  refine Vec3.unit_eq_self hroot ?_
  rw [Rotor.dot_rotate, h.norm, hn]
  ring

/-- A transform that keeps orientation keeps the winding of a triangle about a normal. -/
theorem Transform.Upright.dot_winding (h : t.Upright) (hroot : root 1 = 1)
    (p : Triangle (Exact α root)) {n : Vec3 (Exact α root)} (hn : n.dot n = 1) :
    (p.map t.point).winding.dot (t.normal n) = (p.map (· * t.scale)).winding.dot n := by
  rw [h.winding_map, h.normal_eq hroot hn, Rotor.dot_rotate, h.norm]
  ring

/-- Once it is stretched by positive factors, a side with two extents has an area. -/
theorem Direction.area_pos {a b s : Vec3 (Exact α root)} (hs : 0 < s.x ∧ 0 < s.y ∧ 0 < s.z)
    {d : Direction} (hd : d.Spans a b) : 0 < d.area ((a.greatest b - a.least b) * s) := by
  have hextent {x y r : Exact α root} (hr : 0 < r) (hxy : x ≠ y) : 0 < (max x y - min x y) * r :=
    mul_pos (sub_pos.2 (min_lt_max.2 hxy)) hr
  obtain ⟨hx, hy, hz⟩ := hs
  cases d
  case up | down => exact mul_pos (hextent hx hd.1) (hextent hz hd.2)
  case north | south => exact mul_pos (hextent hx hd.1) (hextent hy hd.2)
  case east | west => exact mul_pos (hextent hy hd.1) (hextent hz hd.2)

/-- The triangles of a side that has an area are wound towards its normal, in exact arithmetic and
with any turn. -/
theorem Direction.winding_pos (hroot : root 1 = 1) {a b : Vec3 (Exact α root)} {d : Direction}
    (hd : d.Spans a b) (h : t.Upright) {p : Triangle (Exact α root)} (hp : p ∈ d.triangles a b t) :
    0 < p.winding.dot (t.normal d.normal) := by
  rw [triangles_eq_map] at hp
  obtain ⟨q, hq, rfl⟩ := List.mem_map.1 hp
  rw [h.dot_winding hroot q d.dot_normal_normal, d.dot_winding _ _ _ q hq]
  exact area_pos h.positive hd

end

/-! ## Meshes -/

namespace Mesh

/-- A mesh draws two triangles for each of its faces, from the top left corner of its side over the
bottom left to the bottom right one, and from the top left over the bottom right to the top right
one.  The corners and the normal are given by formulas over any scalars.  In exact arithmetic, the
vector products of the edges of both triangles have a positive scalar product with the normal, for
every turn of every element and every side with extents in both directions. -/
theorem faces_wind_outward (α : Type u) [Field α] [LinearOrder α] [IsStrictOrderedRing α]
    (root : α → α) (hroot : root 1 = 1) :
    (∀ (model : Model) (mesh : Mesh), (build model).value = .ok mesh →
      ∀ (k : Nat) (p : PlacedFace), model.placedFaces[k]? = some p →
        trianglesOf (mesh.vertices.toList.map Vertex.position)
            (((mesh.indices.toList.drop (6 * k)).take 6).map UInt16.toNat) =
          p.dir.triangles p.element.fromCorner p.element.toCorner (.ofTurn p.element.turn) ∧
        ((mesh.vertices.toList.drop (4 * k)).take 4).map Vertex.normal =
          List.replicate 4 ((Transform.ofTurn p.element.turn).normal p.dir.normal)) ∧
    ∀ (a b : Vec3 (Exact α root)) (turn : Option (Turn (Exact α root))) (d : Direction),
      (∀ r ∈ turn, r.IsExact) → d.Spans a b →
      ∃ tl bl br tr,
        d.corners.map (boxCorner a b (.ofTurn turn)) = [tl, bl, br, tr] ∧
        d.triangles a b (.ofTurn turn) = [⟨tl, bl, br⟩, ⟨tl, br, tr⟩] ∧
        0 < ((bl - tl).cross (br - tl)).dot ((Transform.ofTurn turn).normal d.normal) ∧
        0 < ((br - tl).cross (tr - tl)).dot ((Transform.ofTurn turn).normal d.normal) := by
  constructor
  · intro model mesh hbuild k p hk
    obtain ⟨hblocks, hcount⟩ := blocks_of_build hbuild
    have hshows := hblocks.showsFace hcount hk
    refine ⟨hshows.triangles, ?_⟩
    rw [hshows.normals, Element.transform_eq]
  · intro a b turn d hturn hd
    have hupright := Transform.upright_ofTurn hturn
    obtain ⟨tl, bl, br, tr, hcorners, htriangles⟩ := d.exists_corners_eq a b (.ofTurn turn)
    have hwinding (p : Triangle (Exact α root)) (hp : p ∈ d.triangles a b (.ofTurn turn)) :=
      Direction.winding_pos hroot hd hupright hp
    rw [htriangles] at hwinding
    exact ⟨tl, bl, br, tr, hcorners, htriangles, hwinding ⟨tl, bl, br⟩ (by simp),
      hwinding ⟨tl, br, tr⟩ (by simp)⟩

/-- A block with two faces that is turned and stretched. -/
def turnedBlock : Element where
  fromCorner := ⟨16, 0, 16⟩
  toCorner := ⟨0, 16, 0⟩
  faces := { north := some ⟨"a", none⟩, east := some ⟨"b", none⟩ }
  rotation := some ⟨⟨8, 8, 8⟩, .y, 22.5, true⟩

/-- The second face of a turned block as it is drawn, and the same side in exact arithmetic, with a
turn by an angle with sine 24/25 and cosine 7/25 and a stretch by two. -/
theorem faces_wind_outward_turned_block :
    Rat.sqrt 1 = 1 ∧
    (∃ mesh, (build { elements := [turnedBlock] }).value = .ok mesh ∧
      trianglesOf (mesh.vertices.toList.map Vertex.position)
          (((mesh.indices.toList.drop 6).take 6).map UInt16.toNat) =
        Direction.east.triangles turnedBlock.fromCorner turnedBlock.toCorner
          (.ofTurn turnedBlock.turn) ∧
      ((mesh.vertices.toList.drop 4).take 4).map Vertex.normal =
        List.replicate 4 ((Transform.ofTurn turnedBlock.turn).normal Direction.east.normal)) ∧
    ∃ tl bl br tr, Direction.east.triangles (α := Exact ℚ Rat.sqrt) ⟨16, 0, 16⟩ ⟨0, 16, 0⟩
        (.ofTurn (some ⟨.y, ⟨8, 8, 8⟩, 3 / 5, 4 / 5, some (1 / 2)⟩)) = [⟨tl, bl, br⟩, ⟨tl, br, tr⟩] ∧
      0 < ((bl - tl).cross (br - tl)).dot ((Transform.ofTurn
        (some ⟨.y, ⟨8, 8, 8⟩, 3 / 5, 4 / 5, some (1 / 2)⟩)).normal Direction.east.normal) := by
  have hroot : Rat.sqrt 1 = 1 := by decide
  have hturn : Turn.IsExact
      (⟨.y, ⟨8, 8, 8⟩, 3 / 5, 4 / 5, some (1 / 2)⟩ : Turn (Exact ℚ Rat.sqrt)) := by
    refine ⟨?_, ?_⟩
    · change (3 / 5 * (3 / 5) + 4 / 5 * (4 / 5) : ℚ) = 1
      norm_num
    · rintro c ⟨⟩
      change (0 : ℚ) < 1 / 2
      norm_num
  have hdrawn := (faces_wind_outward ℚ Rat.sqrt hroot).1 { elements := [turnedBlock] }
    (ofElements [turnedBlock]).withBounds rfl 1 ⟨0, turnedBlock, .east, ⟨"b", none⟩⟩ rfl
  obtain ⟨tl, bl, br, tr, -, htriangles, hpos, -⟩ :=
    (faces_wind_outward ℚ Rat.sqrt hroot).2 ⟨16, 0, 16⟩ ⟨0, 16, 0⟩
      (some ⟨.y, ⟨8, 8, 8⟩, 3 / 5, 4 / 5, some (1 / 2)⟩) .east (by rintro r ⟨⟩; exact hturn)
      ⟨by decide, by decide⟩
  exact ⟨hroot, ⟨_, rfl, hdrawn⟩, tl, bl, br, tr, htriangles, hpos⟩

end Mesh
end ModelPreview
