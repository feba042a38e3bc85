import Mathlib
import ModelPreview.Bridge.Message
import ModelPreview.Preview.Backend
import ModelPreview.Proofs.Model.Rewriting

/-!
# Payloads written differently

What a payload or a file is read as does not depend on how it is written: neither on the order of
the members of its structures, nor on members nobody knows, nor on parts given as `null`, nor on
white space.

Main definitions:

- `RenderMessage.Rewrite`: the other ways to write a message.

Main results:

- `RenderMessage.decode_of_rewritten` and `loadModel_of_rewritten`: payloads and files.
- `reading_ignores_writing`: both.
-/

namespace ModelPreview

open Json

namespace RenderMessage

/-- The other ways to write the body of a message. -/
def RewriteBody : Json → Json → Prop :=
  layout.Rewrite [] fun name v v' => name = "model" ∧ Model.Rewrite v v'

/-- The other ways to write a message; its object keeps its only key. -/
inductive Rewrite : Json → Json → Prop
  | inBody {key : StringLiteral} {v v' : Json} (hv : RewriteBody v v') :
    Rewrite (.object [(key, v)] none) (.object [(key, v')] none)

theorem orderly_layout : layout.Orderly where
  nodup := by decide
  isStrict := by simp [layout, Field.isStrict_slot, Model.isStrict_decoder]
  fills := by simp [layout, Field.fills_slot]
  isSet_start := by simp [layout, Field.slot]
  independent := by simp [layout]

theorem respects_body : Decoder.Respects layout.decode RewriteBody := by
  refine Record.Flexible.respects_decode ⟨orderly_layout, ?_, fun _ _ h => by cases h⟩
  simp [layout, Field.respects_slot, Model.respects_decoder]

/-- What is read as a message has no faults. -/
theorem isStrict_decoder : decoder.IsStrict :=
  Decoder.isStrict_tagged fun _ _ _ h => Record.isStrict_decode orderly_layout.isStrict h

/-- A message is read as the same one however it is written. -/
theorem respects_decoder : decoder.Respects Rewrite := by
  rintro _ _ m ⟨hv⟩ h
  obtain ⟨name, hname, h⟩ := bind_eq_ok_iff.1 h
  refine bind_eq_ok_iff.2 ⟨name, hname, ?_⟩
  split at h
  · rename_i hmem
    obtain ⟨m', hm', h⟩ := bind_eq_ok_iff.1 h
    rw [if_pos hmem]
    exact bind_eq_ok_iff.2 ⟨m', respects_body hv hm', h⟩
  · cases h

theorem decode_eq_ok_iff {t : String} {m : RenderMessage} :
    decode t = .ok m ↔ decodeText decoder t = .ok m ∧ m.model.validate = .ok () := by
  unfold decode
  constructor
  · intro h
    obtain ⟨m', hm', h⟩ := bind_eq_ok_iff.1 h
    obtain ⟨_, hvalid, h⟩ := bind_eq_ok_iff.1 h
    cases h
    exact ⟨mapError_eq_ok_iff.1 hm', mapError_eq_ok_iff.1 hvalid⟩
  · rintro ⟨hread, hvalid⟩
    exact bind_eq_ok_iff.2 ⟨m, mapError_eq_ok_iff.2 hread,
      bind_eq_ok_iff.2 ⟨(), mapError_eq_ok_iff.2 hvalid, rfl⟩⟩

/-- A payload that is read may be written in any other way. -/
theorem decode_of_rewritten {t : String} {m : RenderMessage} (h : decode t = .ok m) :
    (∃ j : Json, j.Written t) ∧ ∀ t', Rewritten Rewrite t t' → decode t' = .ok m := by
  obtain ⟨hread, hvalid⟩ := decode_eq_ok_iff.1 h
  obtain ⟨hwritten, hrewritten⟩ := respects_decoder.decodeText isStrict_decoder hread
  exact ⟨hwritten, fun t' ht' => decode_eq_ok_iff.2 ⟨hrewritten t' ht', hvalid⟩⟩

end RenderMessage

/-! ## Files -/

theorem loadModel_eq_ok_iff {fs : FileSystem} {uri : String} {m : Model} :
    loadModel fs uri = .ok m ↔ fs.isFile (Path.ofUri uri) = true ∧
      ∃ t, fs.readText (Path.ofUri uri) = .ok t ∧
        ∃ m', Model.ofText t = .ok m' ∧ m'.normalizePixelUvs = m := by
  simp only [loadModel]
  constructor
  · intro h
    split at h
    · rename_i hfile
      obtain ⟨t, ht, h⟩ := bind_eq_ok_iff.1 h
      obtain ⟨m', hm', h⟩ := bind_eq_ok_iff.1 h
      exact ⟨hfile, t, mapError_eq_ok_iff.1 ht, m', mapError_eq_ok_iff.1 hm', Except.ok.inj h⟩
    · cases h
  · rintro ⟨hfile, t, ht, m', hm', rfl⟩
    rw [if_pos hfile]
    exact bind_eq_ok_iff.2 ⟨t, mapError_eq_ok_iff.2 ht,
      bind_eq_ok_iff.2 ⟨m', mapError_eq_ok_iff.2 hm', rfl⟩⟩

/-- A file that is read as a model may be written in any other way. -/
theorem loadModel_of_rewritten {fs : FileSystem} {uri : String} {m : Model}
    (h : loadModel fs uri = .ok m) :
    ∃ t, fs.readText (Path.ofUri uri) = .ok t ∧ (∃ j : Json, j.Written t) ∧
      ∀ t' (fs' : FileSystem), Rewritten Model.Rewrite t t' →
        fs'.isFile (Path.ofUri uri) = true → fs'.readText (Path.ofUri uri) = .ok t' →
        loadModel fs' uri = .ok m := by
  obtain ⟨-, t, ht, m', hm', rfl⟩ := loadModel_eq_ok_iff.1 h
  obtain ⟨hwritten, hrewritten⟩ := Model.respects_decoder.decodeText Model.isStrict_decoder hm'
  refine ⟨t, ht, hwritten, fun t' fs' ht' hfile hread => ?_⟩
  exact loadModel_eq_ok_iff.2 ⟨hfile, t', hread, m', hrewritten t' ht', rfl⟩

/-- A payload or a file that is read is written from a tree, and it is read as the same message or
model if the tree is rewritten and the new tree written with any white space. -/
theorem reading_ignores_writing :
    (∀ (t : String) (m : RenderMessage), RenderMessage.decode t = .ok m →
      (∃ j : Json, j.Written t) ∧
        ∀ t', Rewritten RenderMessage.Rewrite t t' → RenderMessage.decode t' = .ok m)
      ∧ ∀ (fs : FileSystem) (uri : String) (m : Model), loadModel fs uri = .ok m →
        ∃ t, fs.readText (Path.ofUri uri) = .ok t ∧ (∃ j : Json, j.Written t) ∧
          ∀ t' (fs' : FileSystem), Rewritten Model.Rewrite t t' →
            fs'.isFile (Path.ofUri uri) = true → fs'.readText (Path.ofUri uri) = .ok t' →
            loadModel fs' uri = .ok m :=
  ⟨fun _ _ => RenderMessage.decode_of_rewritten, fun _ _ _ => loadModel_of_rewritten⟩

/-! ## One payload in two ways -/

/-- A face with a texture only. -/
def plainFace : Json := .record [("texture", .text "a")]

/-- The same face, which says that it has no texture rectangle. -/
def fullFace : Json := .record [("texture", .text "a"), ("uv", .null)]

/-- An element with one face. -/
def plainElement : Json :=
  .record [("from", .list [.nat 0, .nat 0, .nat 0]), ("to", .list [.nat 1, .nat 1, .nat 1]),
    ("faces", .record [("up", plainFace)])]

/-- The same element with its members in another order, with a member nobody knows, and with a face
and a rotation that are `null`. -/
def fullElement : Json :=
  .record [("faces", .record [("down", .null), ("up", fullFace)]), ("shade", .bool false),
    ("rotation", .null), ("to", .list [.nat 1, .nat 1, .nat 1]),
    ("from", .list [.nat 0, .nat 0, .nat 0])]

/-- A model with one element. -/
def modelTree (element : Json) : Json := .record [("elements", .list [element])]

/-- A message with one element. -/
def payloadTree (element : Json) : Json :=
  .record [("RenderModel", .record [("model", modelTree element)])]

/-- A model in short. -/
def plainModel : String :=
  "\x7b\"elements\":[\x7b\"from\":[0,0,0],\"to\":[1,1,1]," ++
    "\"faces\":\x7b\"up\":\x7b\"texture\":\"a\"\x7d\x7d\x7d]\x7d"

/-- The same model at length. -/
def fullModel : String :=
  "\x7b \"elements\" :\n[\x7b\"faces\": \x7b\"down\": null, \"up\": \x7b\"texture\": \"a\", " ++
    "\"uv\": null\x7d\x7d,\n\"shade\": false, \"rotation\": null, " ++
    "\"to\": [1, 1, 1], \"from\": [0, 0, 0]\x7d]\x7d\n"

/-- The payload with a given model. -/
def payloadOf (model : String) : String :=
  "\x7b\"RenderModel\": \x7b\"model\": " ++ model ++ "\x7d\x7d"

/-- A file system in which every file holds the given text. -/
def filesWith (text : String) : FileSystem := ⟨fun _ => true, fun _ => .ok text.toUTF8⟩

theorem written_plainModel : (modelTree plainElement).Written plainModel :=
  written_iff.2 ⟨(skip_eq_ok_iff _).1 rfl, by decide +kernel⟩

theorem written_fullModel : (modelTree fullElement).Written fullModel :=
  written_iff.2 ⟨(skip_eq_ok_iff _).1 rfl, by decide +kernel⟩

theorem written_plainPayload : (payloadTree plainElement).Written (payloadOf plainModel) :=
  written_iff.2 ⟨(skip_eq_ok_iff _).1 rfl, by decide +kernel⟩

theorem written_fullPayload : (payloadTree fullElement).Written (payloadOf fullModel) :=
  written_iff.2 ⟨(skip_eq_ok_iff _).1 rfl, by decide +kernel⟩

theorem readText_filesWith (text path : String) : (filesWith text).readText path = .ok text := by
  have hutf8 : String.fromUTF8? text.toUTF8 = some text := dif_pos text.isValidUTF8
  refine bind_eq_ok_iff.2 ⟨text.toUTF8, rfl, ?_⟩
  rw [hutf8]
  rfl

/-- The faces may be written at length. -/
theorem rewrite_plainFaces :
    Relation.ReflTransGen Faces.Rewrite (.record [("up", plainFace)])
      (.record [("down", .null), ("up", fullFace)]) := by
  have huv : Face.Rewrite plainFace fullFace :=
    .record_addNull [("texture", .text "a")] [] (by simp) (by simp)
  have hup : Faces.Rewrite (.record [("up", plainFace)]) (.record [("up", fullFace)]) :=
    .record_inMember [] [] (f := Faces.layout.fields[0]) (by simp) huv
  have hdown : Faces.Rewrite (.record [("up", fullFace)])
      (.record [("down", .null), ("up", fullFace)]) :=
    .record_addNull [] [("up", fullFace)] (by simp) (by simp)
  exact .head hup (.single hdown)

/-- The element may be written at length. -/
theorem rewrite_plainElement :
    Relation.ReflTransGen Element.Rewrite plainElement fullElement := by
  let corners : List (String × Json) :=
    [("from", .list [.nat 0, .nat 0, .nat 0]), ("to", .list [.nat 1, .nat 1, .nat 1])]
  let faces : Json := .record [("down", .null), ("up", fullFace)]
  have hinner (v v' : Json) (hv : Faces.Rewrite v v') :
      Element.Rewrite (.record (corners ++ [("faces", v)]))
        (.record (corners ++ [("faces", v')])) :=
    .record_inMember corners [] (f := Element.layout.fields[2]) (by simp) (.inl ⟨rfl, hv⟩)
  have hfaces : Relation.ReflTransGen Element.Rewrite plainElement
      (.record (corners ++ [("faces", faces)])) := rewrite_plainFaces.lift _ hinner
  have hshade : Element.Rewrite (.record (corners ++ [("faces", faces)]))
      (.record (corners ++ [("shade", .bool false), ("faces", faces)])) :=
    .record_addUnknown corners [("faces", faces)] (by simp [Element.layout]) rfl
  have hrotation : Element.Rewrite (.record (corners ++ [("shade", .bool false), ("faces", faces)]))
      (.record (corners ++ [("rotation", .null), ("shade", .bool false), ("faces", faces)])) :=
    .record_addNull corners [("shade", .bool false), ("faces", faces)] (by simp) (by simp [corners])
  have horder : Element.Rewrite
      (.record (corners ++ [("rotation", .null), ("shade", .bool false), ("faces", faces)]))
      fullElement := .record_permute (List.reverse_perm _).symm
  exact hfaces.trans (.head hshade (.head hrotation (.single horder)))

/-- An element may be rewritten within a model. -/
theorem rewrite_modelTree {v v' : Json} (hv : Element.Rewrite v v') :
    Model.Rewrite (modelTree v) (modelTree v') := by
  have hitem : Json.RewriteItem Element.Rewrite (.array ([] ++ v :: []) none)
      (.array ([] ++ v' :: []) none) := .inItem hv
  exact .record_inMember [] [] (f := Model.layout.fields[0]) (by simp) ⟨rfl, hitem⟩

/-- An element may be rewritten within a message. -/
theorem rewrite_payloadTree {v v' : Json} (hv : Element.Rewrite v v') :
    RenderMessage.Rewrite (payloadTree v) (payloadTree v') := by
  have hmodel : RenderMessage.RewriteBody (.record [("model", modelTree v)])
      (.record [("model", modelTree v')]) :=
    .record_inMember [] [] (f := RenderMessage.layout.fields[0]) (by simp)
      ⟨rfl, rewrite_modelTree hv⟩
  exact .inBody hmodel

theorem exists_eq_ok {ε α : Type} {x : Except ε α} (h : x.toOption.isSome = true) :
    ∃ a, x = .ok a := by
  cases x with
  | error e => cases h
  | ok a => exact ⟨a, rfl⟩

/-- The model at length is read like the one in short, from a payload and from a file. -/
theorem fullModel_read_like_plainModel :
    (∃ m, RenderMessage.decode (payloadOf plainModel) = .ok m ∧
        RenderMessage.decode (payloadOf fullModel) = .ok m)
      ∧ ∃ m, loadModel (filesWith plainModel) "m.json" = .ok m ∧
        loadModel (filesWith fullModel) "m.json" = .ok m := by
  constructor
  · obtain ⟨m, hm⟩ := exists_eq_ok (x := RenderMessage.decode (payloadOf plainModel))
      (by decide +kernel)
    have htree := rewrite_plainElement.lift payloadTree fun _ _ => rewrite_payloadTree
    exact ⟨m, hm, (reading_ignores_writing.1 _ m hm).2 _
      ⟨_, _, written_plainPayload, htree, written_fullPayload⟩⟩
  · obtain ⟨m, hm⟩ := exists_eq_ok (x := loadModel (filesWith plainModel) "m.json")
      (by decide +kernel)
    obtain ⟨t, ht, -, hread⟩ := reading_ignores_writing.2 _ _ m hm
    obtain rfl : plainModel = t :=
      Except.ok.inj ((readText_filesWith plainModel _).symm.trans ht)
    have htree := rewrite_plainElement.lift modelTree fun _ _ => rewrite_modelTree
    exact ⟨m, hm, hread fullModel (filesWith fullModel)
      ⟨_, _, written_plainModel, htree, written_fullModel⟩ rfl (readText_filesWith fullModel _)⟩

end ModelPreview
