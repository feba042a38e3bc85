import Mathlib
import ModelPreview.Bridge.Message
import ModelPreview.Proofs.Model.RoundTrip
import ModelPreview.Proofs.Number.Stored

/-!
# Messages read back

The payload of a message is accepted exactly if all numbers of its model are finite, and then it is
read as the message it was made from.  Payloads that were accepted once hold finite numbers only, so
that their messages can be sent on.

Main results:

- `RenderMessage.yieldsIff_decode_encode`: when the payload of a message is accepted.
- `RenderMessage.beq_self_of_allFinite`: finite messages equal themselves, numbers compared by value.
-/

namespace ModelPreview

open Json

/-! ## Comparison by value -/

theorem option_beq_self {α : Type} [BEq α] {o : Option α} (h : ∀ a ∈ o, (a == a) = true) :
    (o == o) = true := by
  cases o with
  | none => rfl
  | some a => exact h a rfl

theorem list_beq_self {α : Type} [BEq α] {as : List α} (h : ∀ a ∈ as, (a == a) = true) :
    (as == as) = true := by
  induction as with
  | nil => rfl
  | cons a as ih =>
    rw [List.cons_beq_cons, h a List.mem_cons_self, ih fun a' ha' => h a' (List.mem_cons_of_mem a ha')]
    rfl

theorem Vec3.beq_self_of_allFinite {v : Vec3 Float32} (h : AllFinite v.toList) :
    (v == v) = true := by
  obtain ⟨x, y, z⟩ := v
  simp only [toList, allFinite_cons] at h
  change (x == x && y == y && z == z) = true
  simp [beq_self_of_isFinite h.1, beq_self_of_isFinite h.2.1, beq_self_of_isFinite h.2.2.1]

theorem UvRect.beq_self_of_allFinite {r : UvRect} (h : AllFinite r.toList) : (r == r) = true := by
  obtain ⟨u0, v0, u1, v1⟩ := r
  simp only [toList, allFinite_cons] at h
  change (u0 == u0 && (v0 == v0 && (u1 == u1 && v1 == v1))) = true
  simp [beq_self_of_isFinite h.1, beq_self_of_isFinite h.2.1, beq_self_of_isFinite h.2.2.1,
    beq_self_of_isFinite h.2.2.2.1]

theorem Face.beq_self_of_allFinite {f : Face} (h : AllFinite f.numbers) : (f == f) = true := by
  obtain ⟨texture, uv⟩ := f
  have huv : (uv == uv) = true := option_beq_self fun r hr =>
    UvRect.beq_self_of_allFinite (allFinite_flatMap.1 h r (Option.mem_toList.2 hr))
  change (texture == texture && uv == uv) = true
  rw [huv, beq_self_eq_true]
  rfl

theorem Faces.beq_self_of_allFinite {f : Faces} (h : AllFinite f.numbers) : (f == f) = true := by
  obtain ⟨up, down, north, south, east, west⟩ := f
  have hface {o : Option Face} (ho : ∀ face ∈ o, AllFinite face.numbers) : (o == o) = true :=
    option_beq_self fun face hf => Face.beq_self_of_allFinite (ho face hf)
  obtain ⟨hup, hdown, hnorth, hsouth, heast, hwest⟩ := (allFinite_numbers_iff _).1 h
  change (up == up && (down == down && (north == north
    && (south == south && (east == east && west == west))))) = true
  rw [hface hup, hface hdown, hface hnorth, hface hsouth, hface heast, hface hwest]
  rfl

theorem Rotation.beq_self_of_allFinite {r : Rotation} (h : AllFinite r.numbers) :
    (r == r) = true := by
  obtain ⟨origin, axis, angle, rescale⟩ := r
  simp only [numbers, allFinite_append, allFinite_cons] at h
  change (origin == origin && (axis == axis && (angle == angle && rescale == rescale))) = true
  rw [Vec3.beq_self_of_allFinite h.1, beq_self_of_isFinite h.2.1, beq_self_eq_true,
    beq_self_eq_true]
  rfl

theorem Element.beq_self_of_allFinite {e : Element} (h : AllFinite e.numbers) :
    (e == e) = true := by
  obtain ⟨fromCorner, toCorner, faces, rotation⟩ := e
  simp only [numbers, allFinite_append, allFinite_flatMap, Option.mem_toList] at h
  obtain ⟨⟨⟨hfrom, hto⟩, hfaces⟩, hrotation⟩ := h
  have hr : (rotation == rotation) = true := option_beq_self fun r hr =>
    Rotation.beq_self_of_allFinite (hrotation r hr)
  change (fromCorner == fromCorner && (toCorner == toCorner
    && (faces == faces && rotation == rotation))) = true
  rw [Vec3.beq_self_of_allFinite hfrom, Vec3.beq_self_of_allFinite hto,
    Faces.beq_self_of_allFinite hfaces, hr]
  rfl

/-- A finite message equals itself. -/
theorem RenderMessage.beq_self_of_allFinite {m : RenderMessage} (h : AllFinite m.model.numbers) :
    (m == m) = true := by
  have helements : (m.model.elements == m.model.elements) = true := list_beq_self fun e he =>
    Element.beq_self_of_allFinite (allFinite_flatMap.1 h e he)
  change (m.model.elements == m.model.elements
    && m.model.textures.entries == m.model.textures.entries) = true
  rw [helements, beq_self_eq_true]
  rfl

/-! ## Payloads -/

/-- A written alternative with a body. -/
theorem Decoder.tagged_record {α : Type} {names : List String} {name : String}
    (hname : name ∈ names) (body : String → Option Json → Except DecodeError α) (j : Json) :
    tagged names body (record [(name, j)]).asRead = body name (some j.asRead) := by
  rw [asRead_record]
  simp only [memberList, List.map_cons, List.map_nil, tagged, StringLiteral.text_asRead_ofText]
  change (if name ∈ names then (do
    let result ← body name (some j.asRead)
    endItems none []
    return result) else _) = _
  rw [if_pos hname]
  cases body name (some j.asRead) <;> rfl

namespace RenderMessage

theorem yieldsIff_decoder (m : Model) :
    YieldsIff (decoder (record [("RenderModel", record [("model", m.toJson)])]).asRead)
      (AllFinite m.numbers) (.renderModel m) := by
  rw [decoder, Decoder.tagged_record (by simp)]
  exact (Record.yieldsIff_decode (Record.yieldsIff_readAll_slot rfl rfl (Model.yieldsIff_decoder m)
    (Record.yieldsIff_readAll_nil _ _)) rfl).of_iff (by simp)

/-- The payload of a message is read as the message exactly if all its numbers are finite. -/
theorem yieldsIff_decode_encode (m : RenderMessage) :
    YieldsIff (decode m.encode) (AllFinite m.model.numbers) m := by
  obtain ⟨m⟩ := m
  have hwf : (record [("RenderModel", record [("model", m.toJson)])]).WellFormed := by
    simp [Model.wellFormed_toJson]
  have htext := (yieldsIff_decoder m).mapError ProtocolError.malformed
  have hvalid := (Model.yieldsIff_validate m).mapError ProtocolError.invalidModel
  rw [decode, encode, decodeText_render hwf]
  exact (htext.bind (hvalid.bind (.pure (renderModel m)))).of_iff (by simp [model])

/-- Every message that was accepted has finite numbers only. -/
theorem allFinite_of_decode {p : String} {m : RenderMessage} (h : decode p = .ok m) :
    AllFinite m.model.numbers := by
  rw [decode] at h
  cases hread : decodeText decoder p with
  | error e =>
    rw [hread] at h
    cases h
  | ok m' =>
    rw [hread] at h
    change (m'.model.validate.mapError ProtocolError.invalidModel >>= fun _ => _) = _ at h
    cases hvalid : m'.model.validate with
    | error e =>
      rw [hvalid] at h
      cases h
    | ok u =>
      rw [hvalid] at h
      cases h
      exact (Model.yieldsIff_validate m.model).of_eq_ok hvalid

/-- The payload of a message with finite numbers is read as that message, which equals itself when
numbers are compared by value; the payload of any other message is rejected.  A message that was
read from some payload is read back from its own one. -/
theorem decode_encode_roundTrip (m : RenderMessage) :
    (AllFinite m.model.numbers → decode m.encode = .ok m ∧ (m == m) = true)
      ∧ (¬ AllFinite m.model.numbers → ∃ e, decode m.encode = .error e)
      ∧ ∀ p, decode p = .ok m → decode m.encode = .ok m := by
  have hencode := yieldsIff_decode_encode m
  refine ⟨fun hfinite => ⟨hencode.eq_ok hfinite, beq_self_of_allFinite hfinite⟩,
    hencode.exists_error, ?_⟩
  intro p hp
  exact hencode.eq_ok (allFinite_of_decode hp)

/-- A model with the smallest number above zero, a negative zero, a number whose digits lie next to
a tie, and texts that have to be escaped. -/
def edgeModel : Model where
  elements := [{
    fromCorner := ⟨.ofBits 1, .ofBits 0x80000000, .ofBits 0x15ae43fd⟩
    toCorner := ⟨.ofBits 0x7f7fffff, 1, 16⟩
    faces := { up := some ⟨"a\"\n\\é", some ⟨0, 0, 1, 1⟩⟩, west := some ⟨"", none⟩ }
    rotation := some ⟨⟨8, 8, 8⟩, .y, .ofBits 0xc1b40000, true⟩ }]
  textures := SortedMap.ofList [("#b", "x"), ("a", "\t")]

/-- The edge model survives the way over the wire. -/
theorem decode_encode_edgeModel :
    decode (renderModel edgeModel).encode = .ok (renderModel edgeModel) :=
  ((decode_encode_roundTrip (renderModel edgeModel)).1 (by decide +kernel)).1

end RenderMessage

end ModelPreview
