import Mathlib
import ModelPreview.Proofs.Geometry.UvRect
import ModelPreview.Proofs.Mesh.Buffers
import ModelPreview.Proofs.Render.FaceTextures
import ModelPreview.Proofs.Texture.SizeCheck

/-!
# Faces within the rectangles of their textures

The sides of the rectangles of an atlas are quotients of whole numbers, rounded, and rounding keeps
their order.  So a vertex whose texture coordinates lie between zero and one is carried into the
rectangle of the texture of its face.

Nothing makes the coordinates do so: those of a valid model are finite, and they are passed through.
And a coordinate that lies between zero and one may be carried to the next value behind the rectangle,
because its sides are rounded and so is their distance.

Main definitions:

- `RenderSession.Misplaces`: a vertex of a valid model is not within the rectangle of its texture.

Main results:

- `Atlas.upright_of_pack`: the rectangles of an atlas.
- `RenderSession.render_keeps_faces_in_rects`: coordinates between zero and one are enclosed by the
  rectangle.
- `RenderSession.cubes_leave_rects`: four cubes with vertices that are not within their rectangles.
-/

namespace ModelPreview

open Binary (single)

/-! ## Rectangles of an atlas -/

namespace Atlas

theorem hasValue_ratio {n d : UInt32} (hle : n.toNat ≤ d.toNat) (hpos : 0 < d.toNat)
    (hsmall : d.toNat ≤ maxAtlasSize.toNat) :
    HasValue (ratio n d) (single.nearest (n.toNat / d.toNat)) := by
  have hdq : (0 : ℚ) < d.toNat := by exact_mod_cast hpos
  have hone : (n.toNat / d.toNat : ℚ) ≤ 1 := (div_le_one hdq).2 (by exact_mod_cast hle)
  rw [toNat_maxAtlasSize] at hsmall
  exact (hasValue_ofWord_of_le (by omega)).div (hasValue_ofWord_of_le (by omega)) hdq
    (hone.trans_lt (by norm_num))

/-- Quotients with one denominator are ordered like their numerators. -/
theorem exists_hasValue_ratio {m n d : UInt32} (hmn : m.toNat ≤ n.toNat) (hnd : n.toNat ≤ d.toNat)
    (hpos : 0 < d.toNat) (hsmall : d.toNat ≤ maxAtlasSize.toNat) :
    ∃ p q, HasValue (ratio m d) p ∧ HasValue (ratio n d) q ∧ p ≤ q ∧ q ≤ 1 := by
  have hdq : (0 : ℚ) < d.toNat := by exact_mod_cast hpos
  have hone : (n.toNat / d.toNat : ℚ) ≤ 1 := (div_le_one hdq).2 (by exact_mod_cast hnd)
  have hmnq : (m.toNat : ℚ) ≤ n.toNat := by exact_mod_cast hmn
  refine ⟨_, _, hasValue_ratio (hmn.trans hnd) hpos hsmall, hasValue_ratio hnd hpos hsmall, ?_, ?_⟩
  · exact Binary.Format.nearest_mono single_precision_pos (by positivity) (by gcongr)
  · exact hasValue_one.nearest_le (by positivity) hone

/-- The rectangle of an image that lies within an atlas. -/
theorem upright_rectOf {width height : UInt32} {i : Image} {p : Placement}
    (hwidth : width.toNat ≤ maxAtlasSize.toNat) (hheight : height.toNat ≤ maxAtlasSize.toNat)
    (hacross : 0 < width.toNat) (hdown : 0 < height.toNat)
    (hright : p.x.toNat + i.width.toNat ≤ width.toNat)
    (hbottom : p.y.toNat + i.height.toNat ≤ height.toNat) :
    (rectOf width height i p).Upright := by
  have hx := toNat_add_of_lt (hright.trans_lt width.toNat_lt)
  have hy := toNat_add_of_lt (hbottom.trans_lt height.toNat_lt)
  exact ⟨exists_hasValue_ratio (by omega) (by omega) hacross hwidth,
    exists_hasValue_ratio (by omega) (by omega) hdown hheight⟩

/-- The rectangles of an atlas with pixels, if nothing overflows in its layout. -/
theorem upright_of_pack {images : List (String × Image)} {a : Atlas} (hpack : pack images = .ok a)
    (hcount : images.length ≤ 16384) (hkeys : (images.map (·.1)).Nodup)
    (hfits : ExactShelf.FitsAll {} (images.map (·.2)))
    (hwidth : 0 < a.image.width) (hheight : 0 < a.image.height) {uri : String} {r : UvRect}
    (hr : a.rect? uri = some r) : r.Upright := by
  have hlisted : uri ∈ images.map (·.1) :=
    (isSome_rect?_of_pack hpack uri).1 (Option.isSome_iff_exists.2 ⟨r, hr⟩)
  rcases pack_eq_ok_iff.1 hpack with ⟨rfl, -⟩ | ⟨-, hwidth', hheight', rfl⟩
  · cases hlisted
  rw [← placed_map_address] at hlisted hkeys
  obtain ⟨e, he, rfl⟩ := List.mem_map.1 hlisted
  rw [compose_rect? hkeys he, Option.some.injEq] at hr
  have hroom := room_of_isSmall (by simpa using hcount) hwidth'
    (isSmall_of_fitsAll hfits hwidth' hheight')
  have hmem : (e.1.2, e.2) ∈ Shelf.layout {} (images.map (·.2)) := by
    rw [← sheet_placed]
    exact List.mem_map_of_mem he
  obtain ⟨hright, hbottom⟩ := hroom.inside hmem
  rw [← hroom.toNat_height] at hbottom
  rw [← hr]
  exact upright_rectOf (UInt32.le_iff_toNat_le.1 hwidth') (UInt32.le_iff_toNat_le.1 hheight')
    (UInt32.lt_iff_toNat_lt.1 hwidth) (UInt32.lt_iff_toNat_lt.1 hheight) hright hbottom

end Atlas

/-! ## Faces -/

theorem Mesh.length_textures_le {model : Model} {mesh : Mesh}
    (hmesh : (Mesh.build model).value = .ok mesh) : mesh.textures.length ≤ 16384 := by
  obtain ⟨hblocks, hcount⟩ := blocks_of_build hmesh
  have hfaces := hblocks.size_faces
  have hdistinct : mesh.textures.length ≤ (mesh.faces.toList.map (·.texture)).length :=
    mesh.nodup_textures.length_le_of_subset fun t ht => List.mem_eraseDups.1 ht
  have hsize : (mesh.faces.toList.map (·.texture)).length = mesh.faces.size := by simp
  omega

namespace RenderSession

variable {β τ : Type} [RenderBackend β] [TextureSource τ]

/-- If the mesh and the atlas of a model can be built, the atlas has pixels and nothing overflows in
its layout, then a session that is ready uploads one mesh for the model.  Each of its vertices has one
owner and is carried, once, into the rectangle that the atlas has for the texture of its owner: a
coordinate between zero and one ends up between the two sides or at the next value behind the far
one. -/
theorem render_keeps_faces_in_rects (s : RenderSession (Traced β) τ) (hready : s.state = .ready)
    (model : Model) (mesh : Mesh) (atlas : Atlas) (hmesh : (Mesh.build model).value = .ok mesh)
    (hatlas : ((Atlas.build mesh.textures).run s.textures).value.1 = .ok atlas)
    (hfits : ExactShelf.FitsAll {}
      (((Atlas.loadAll mesh.textures).run s.textures).value.1.map (·.2)))
    (hwidth : 0 < atlas.image.width) (hheight : 0 < atlas.image.height) :
    ∃ (sent : Mesh) (answer : Except RenderError Unit) (rest : List BackendCall),
      (s.render model).value.1.backend.calls =
        s.backend.calls ++ .upload sent atlas answer :: rest ∧
      (∀ other atlas' answer', .upload other atlas' answer' ∉ rest) ∧
      sent.vertices.size = mesh.vertices.size ∧
      ∀ i v, mesh.vertices[i]? = some v → ∃ f r,
        mesh.owners i = [f] ∧ atlas.rect? f.texture = some r ∧
        sent.vertices[i]? = some { v with uv := r.map v.uv } ∧ r.KeepsIn v.uv (r.map v.uv) := by
  obtain ⟨answer, rest, hcalls, hnone⟩ := calls_render hready hmesh hatlas
  have hmoved : mesh.MovedInto atlas.rect? (mesh.remap atlas.rect?) := by
    refine (Mesh.tiled_of_build hmesh).movedInto_remap fun f hf => ?_
    exact (Atlas.isSome_rect?_of_build hatlas f.texture).2 (Mesh.mem_textures.2 ⟨f, hf, rfl⟩)
  refine ⟨_, answer, rest, hcalls, hnone, hmoved.size, fun i v hv => ?_⟩
  obtain ⟨f, r, howner, hr, hsent⟩ := hmoved.vertex i v hv
  rw [Atlas.build_value] at hatlas
  have hlength := Atlas.length_loadAll mesh.textures s.textures
  rw [List.length_map] at hlength
  have hupright := Atlas.upright_of_pack hatlas
    (hlength.trans_le (Mesh.length_textures_le hmesh))
    (by rw [Atlas.loadAll_map_fst]; exact mesh.nodup_textures) hfits hwidth hheight hr
  exact ⟨f, r, howner, hr, hsent, UvRect.keepsIn_map hupright v.uv⟩

/-- The images that are packed for the striped box. -/
theorem loadAll_stripedMesh :
    ((Atlas.loadAll stripedMesh.textures).run stripedSession.textures).value.1 =
      [("a", .placeholder), ("b", .solid 4 4 .white)] := rfl

/-- All faces of the striped box stay within their rectangles. -/
theorem stripedBox_stays_in_rects :
    stripedSession.state = .ready ∧ (Mesh.build stripedBox).value = .ok stripedMesh ∧
    ExactShelf.FitsAll {}
      (((Atlas.loadAll stripedMesh.textures).run stripedSession.textures).value.1.map (·.2)) ∧
    ∃ atlas, ((Atlas.build stripedMesh.textures).run stripedSession.textures).value.1 = .ok atlas ∧
      0 < atlas.image.width ∧ 0 < atlas.image.height ∧
      ∃ (sent : Mesh) (answer : Except RenderError Unit) (rest : List BackendCall),
        (stripedSession.render stripedBox).value.1.backend.calls =
          stripedSession.backend.calls ++ .upload sent atlas answer :: rest ∧
        sent.vertices.size = 12 ∧
        ∀ i v, stripedMesh.vertices[i]? = some v → ∃ f r,
          stripedMesh.owners i = [f] ∧ atlas.rect? f.texture = some r ∧
          sent.vertices[i]? = some { v with uv := r.map v.uv } ∧ r.KeepsIn v.uv (r.map v.uv) := by
  have hfits : ExactShelf.FitsAll {}
      (((Atlas.loadAll stripedMesh.textures).run stripedSession.textures).value.1.map (·.2)) := by
    rw [loadAll_stripedMesh]
    exact ExactShelf.fitsAll_of_sides_lt (by decide) (by decide)
      (by simp [Image.solid, Image.placeholder])
  have hatlas : ((Atlas.build stripedMesh.textures).run stripedSession.textures).value.1 =
      .ok (Atlas.compose 20 16 (Atlas.placed
        ((Atlas.loadAll stripedMesh.textures).run stripedSession.textures).value.1)) := by
    have hshelf : Shelf.placeAll {} (((Atlas.loadAll stripedMesh.textures).run
        stripedSession.textures).value.1.map (·.2)) = ⟨20, 0, 16, 20⟩ := by
      rw [loadAll_stripedMesh]
      rfl
    rw [Atlas.build_value, Atlas.pack_eq_ok_iff, hshelf, loadAll_stripedMesh]
    exact .inr ⟨List.cons_ne_nil _ _, by decide, by decide, rfl⟩
  have hsize : stripedMesh.vertices.size = 12 := by decide +kernel
  obtain ⟨sent, answer, rest, hcalls, -, hsent, hvertices⟩ := render_keeps_faces_in_rects
    stripedSession rfl stripedBox stripedMesh _ build_stripedBox hatlas hfits (by decide) (by decide)
  exact ⟨rfl, build_stripedBox, hfits, _, hatlas, by decide, by decide, sent, answer, rest, hcalls,
    hsent.trans hsize, hvertices⟩

end RenderSession

/-! ## Faces that leave their rectangles -/

/-- Whether a point lies within the rectangle, its sides included. -/
def UvRect.Contains (r : UvRect) (p : Uv) : Prop :=
  r.u0 ≤ p.u ∧ p.u ≤ r.u1 ∧ r.v0 ≤ p.v ∧ p.v ≤ r.v1

instance (r : UvRect) (p : Uv) : Decidable (r.Contains p) := inferInstanceAs (Decidable (_ ∧ _))

namespace RenderSession

/-- A session that is ready draws a valid model, and a vertex that it uploads for it is not within
the rectangle of the texture of its face. -/
def Misplaces (s : RenderSession (Traced Recorder) ImageTable) (model : Model) : Prop :=
  model.validate = .ok () ∧ s.state = .ready ∧ (s.render model).value.2 = .ok () ∧
  ∃ (mesh sent : Mesh) (atlas : Atlas) (answer : Except RenderError Unit) (rest : List BackendCall),
    (Mesh.build model).value = .ok mesh ∧
    (s.render model).value.1.backend.calls =
      s.backend.calls ++ .upload sent atlas answer :: rest ∧
    ∃ i f r v, mesh.owners i = [f] ∧ atlas.rect? f.texture = some r ∧
      sent.vertices[i]? = some v ∧ ¬ r.Contains v.uv

/-- The unit cube with some of its faces. -/
def cubeWith (faces : Faces) : Model where
  elements := [{ fromCorner := ⟨0, 0, 0⟩, toCorner := ⟨1, 1, 1⟩, faces := faces }]

/-- The mesh of such a cube. -/
def cubeMesh (faces : Faces) : Mesh := (Mesh.ofElements (cubeWith faces).elements).withBounds

/-- A session that is ready and knows some textures. -/
def knowing (images : List (String × Image)) : RenderSession (Traced Recorder) ImageTable :=
  (create (⟨{}, []⟩ : Traced Recorder) (.ofList images) ⟨8, 8⟩).run [.setup]

/-- A vertex of a cube is misplaced if its rectangle, looked up, carries it out of itself. -/
theorem misplaces_of_owner {images : List (String × Image)} {faces : Faces} (i : Nat) (f : MeshFace)
    (v : Vertex) (r : UvRect) (hvalid : (cubeWith faces).validate = .ok ())
    (hmesh : (Mesh.build (cubeWith faces)).value = .ok (cubeMesh faces))
    (hdrawn : ((knowing images).render (cubeWith faces)).value.2 = .ok ())
    (howners : (cubeMesh faces).owners i = [f]) (hv : (cubeMesh faces).vertices[i]? = some v)
    (hrect : ((Atlas.build (cubeMesh faces).textures).run
      (knowing images).textures).value.1.toOption.bind (·.rect? f.texture) = some r)
    (hout : ¬ r.Contains (r.map v.uv)) : (knowing images).Misplaces (cubeWith faces) := by
  cases hatlas : ((Atlas.build (cubeMesh faces).textures).run (knowing images).textures).value.1 with
  | error e =>
    rw [hatlas] at hrect
    cases hrect
  | ok atlas =>
    rw [hatlas] at hrect
    change atlas.rect? f.texture = some r at hrect
    have hready : (knowing images).state = .ready := rfl
    obtain ⟨answer, rest, hcalls, -⟩ := calls_render hready hmesh hatlas
    refine ⟨hvalid, hready, hdrawn, _, _, atlas, answer, rest, hmesh, hcalls, i, f, r,
      v.movedInto r, howners, hrect, ?_, hout⟩
    rw [Mesh.getElem?_remap, hv, howners, Option.map_some, List.foldl_cons, List.foldl_nil,
      MeshFace.move, hrect]

/-- A face that shows more than its texture reaches into the rectangle of another one.  The right side
of the second of three textures with widths of three, five and one is carried to the next value behind
it.  In an atlas without pixels no side of a rectangle is a number, and the rectangle of an image whose
right side does not fit into a word is the wrong way round. -/
theorem cubes_leave_rects :
    (knowing []).Misplaces
      (cubeWith { up := some ⟨"a", some ⟨0, 0, 1.5, 1⟩⟩, north := some ⟨"b", none⟩ }) ∧
    (knowing [("a", .solid 3 1 .white), ("b", .solid 5 1 .black), ("c", .solid 1 1 .white)]).Misplaces
      (cubeWith { up := some ⟨"a", none⟩, north := some ⟨"b", none⟩, south := some ⟨"c", none⟩ }) ∧
    (knowing [("a", ⟨0, 0, .empty⟩)]).Misplaces (cubeWith { up := some ⟨"a", none⟩ }) ∧
    (knowing [("a", .solid 1 1 .white), ("b", ⟨4294967295, 0, .empty⟩)]).Misplaces
      (cubeWith { up := some ⟨"a", none⟩, north := some ⟨"b", none⟩ }) := by
  refine ⟨?more, ?rounded, ?empty, ?wrapped⟩
  case more =>
    exact misplaces_of_owner 2 ⟨0, .up, "a", 0, 0⟩ ⟨⟨1, 1, 1⟩, ⟨1.5, 1⟩, ⟨0, 1, 0⟩⟩ ⟨0, 0, 0.5, 1⟩
      (by decide +kernel) rfl rfl (by decide +kernel) (by decide +kernel) (by decide +kernel)
      (by decide +kernel)
  case rounded =>
    exact misplaces_of_owner 6 ⟨0, .north, "b", 4, 6⟩ ⟨⟨0, 0, 0⟩, ⟨1, 1⟩, ⟨0, 0, -1⟩⟩
      ⟨3 / 9, 0, 8 / 9, 1⟩
      (by decide +kernel) rfl rfl (by decide +kernel) (by decide +kernel) (by decide +kernel)
      (by decide +kernel)
  case empty =>
    exact misplaces_of_owner 0 ⟨0, .up, "a", 0, 0⟩ ⟨⟨0, 1, 0⟩, ⟨0, 0⟩, ⟨0, 1, 0⟩⟩
      ⟨0 / 0, 0 / 0, 0 / 0, 0 / 0⟩
      (by decide +kernel) rfl rfl (by decide +kernel) (by decide +kernel) (by decide +kernel)
      (by decide +kernel)
  case wrapped =>
    exact misplaces_of_owner 4 ⟨0, .north, "b", 4, 6⟩ ⟨⟨1, 1, 0⟩, ⟨0, 0⟩, ⟨0, 0, -1⟩⟩ ⟨1, 0, 0, 0⟩
      (by decide +kernel) rfl rfl (by decide +kernel) (by decide +kernel) (by decide +kernel)
      (by decide +kernel)

end RenderSession
end ModelPreview
