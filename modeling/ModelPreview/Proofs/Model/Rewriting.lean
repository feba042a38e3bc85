import Mathlib
import ModelPreview.Model.Json
import ModelPreview.Proofs.Json.Rewriting

/-!
# Models written differently

The structures of a model may list their members in any order and among unknown ones, and parts
that are absent may be given as `null`; the model that is read is the same.

Main definitions:

- `Model.Rewrite`, `Element.Rewrite`, `Faces.Rewrite`, `Face.Rewrite` and `Rotation.Rewrite`: the
  other ways to write each structure.

Main results:

- `Model.isStrict_decoder`: what is read as a model has no faults.
- `Model.respects_decoder`: a model is read as the same one however it is written.
-/

namespace ModelPreview

open Json

/-! ## Faces -/

/-- The other ways to write a face; `uv` may be `null`. -/
def Face.Rewrite : Json → Json → Prop := Face.layout.Rewrite ["uv"] fun _ _ _ => False

/-- The other ways to write the faces of an element; each may be `null`. -/
def Faces.Rewrite : Json → Json → Prop :=
  Faces.layout.Rewrite ["up", "down", "north", "south", "east", "west"] fun _ => Face.Rewrite

theorem Vec3.isStrict_decoder : Vec3.decoder.IsStrict :=
  Decoder.isStrict_triple Decoder.isStrict_single _

theorem UvRect.isStrict_decoder : UvRect.decoder.IsStrict :=
  Decoder.isStrict_quadruple Decoder.isStrict_single _

theorem Face.orderly_layout : Face.layout.Orderly where
  nodup := by decide
  isStrict := by
    simp [layout, Field.isStrict_slot, Decoder.isStrict_text, Decoder.isStrict_option,
      UvRect.isStrict_decoder]
  fills := by simp [layout, Field.fills_slot]
  isSet_start := by simp [layout, Field.slot]
  independent := by simp [layout, Field.independent_slot]

theorem Face.isStrict_decoder : Face.decoder.IsStrict :=
  Record.isStrict_decode Face.orderly_layout.isStrict

theorem Face.respects_decoder : Face.decoder.Respects Face.Rewrite := by
  refine Record.Flexible.respects_decode ⟨Face.orderly_layout, ?_, ?_⟩
  · exact fun f _ _ _ _ _ h => h.elim
  · simp only [layout, List.forall_mem_cons, Field.slot_name]
    refine ⟨by simp, fun _ => Record.takesNull_slot ?_, by simp⟩
    rintro ⟨texture, uv⟩ rfl
    rfl

theorem Faces.orderly_layout : Faces.layout.Orderly where
  nodup := by decide
  isStrict := by
    simp [layout, Field.isStrict_slot, Decoder.isStrict_option, Face.isStrict_decoder]
  fills := by simp [layout, Field.fills_slot]
  isSet_start := by simp [layout, Field.slot]
  independent := by simp [layout, Field.independent_slot]

theorem Faces.isStrict_decoder : Faces.decoder.IsStrict :=
  Record.isStrict_decode Faces.orderly_layout.isStrict

theorem Faces.respects_decoder : Faces.decoder.Respects Faces.Rewrite := by
  have hface : (Decoder.option Face.decoder).Respects Face.Rewrite :=
    Decoder.respects_option Face.respects_decoder fun _ _ h => h.ne_word
  refine Record.Flexible.respects_decode ⟨Faces.orderly_layout, ?_, ?_⟩
  · simp [layout, Field.respects_slot hface]
  · simp only [layout, List.forall_mem_cons]
    refine ⟨fun _ => Record.takesNull_slot ?_, fun _ => Record.takesNull_slot ?_,
      fun _ => Record.takesNull_slot ?_, fun _ => Record.takesNull_slot ?_,
      fun _ => Record.takesNull_slot ?_, fun _ => Record.takesNull_slot ?_, by simp⟩
    all_goals
      rintro ⟨up, down, north, south, east, west⟩ rfl
      rfl

/-! ## Rotations -/

/-- The other ways to write a rotation. -/
def Rotation.Rewrite : Json → Json → Prop := Rotation.layout.Rewrite [] fun _ _ _ => False

theorem Axis.isStrict_decoder : Axis.decoder.IsStrict := by
  refine Decoder.isStrict_tagged fun name v a h => ?_
  obtain ⟨_, hunit, -⟩ := bind_eq_ok_iff.1 h
  exact Decoder.isStrict_unit hunit

theorem Rotation.orderly_layout : Rotation.layout.Orderly where
  nodup := by decide
  isStrict := by
    simp [layout, Field.isStrict_slot, Vec3.isStrict_decoder, Axis.isStrict_decoder,
      Decoder.isStrict_single, Decoder.isStrict_bool]
  fills := by simp [layout, Field.fills_slot]
  isSet_start := by simp [layout, Field.slot]
  independent := by simp [layout, Field.independent_slot]

theorem Rotation.isStrict_decoder : Rotation.decoder.IsStrict :=
  Record.isStrict_decode Rotation.orderly_layout.isStrict

theorem Rotation.respects_decoder : Rotation.decoder.Respects Rotation.Rewrite :=
  Record.Flexible.respects_decode
    ⟨Rotation.orderly_layout, fun _ _ _ _ _ _ h => h.elim, fun _ _ h => by cases h⟩

/-! ## Elements -/

/-- The other ways to write an element; `rotation` may be `null`. -/
def Element.Rewrite : Json → Json → Prop :=
  Element.layout.Rewrite ["rotation"] fun name v v' =>
    name = "faces" ∧ Faces.Rewrite v v' ∨ name = "rotation" ∧ Rotation.Rewrite v v'

theorem Element.orderly_layout : Element.layout.Orderly where
  nodup := by decide
  isStrict := by
    simp [layout, Field.isStrict_slot, Vec3.isStrict_decoder, Faces.isStrict_decoder,
      Decoder.isStrict_option, Rotation.isStrict_decoder]
  fills := by simp [layout, Field.fills_slot]
  isSet_start := by simp [layout, Field.slot]
  independent := by simp [layout, Field.independent_slot]

theorem Element.isStrict_decoder : Element.decoder.IsStrict :=
  Record.isStrict_decode Element.orderly_layout.isStrict

theorem Element.respects_decoder : Element.decoder.Respects Element.Rewrite := by
  have hrotation : (Decoder.option Rotation.decoder).Respects Rotation.Rewrite :=
    Decoder.respects_option Rotation.respects_decoder fun _ _ h => h.ne_word
  refine Record.Flexible.respects_decode ⟨Element.orderly_layout, ?_, ?_⟩
  · simp [layout, Field.respects_slot, Decoder.respects_false, Faces.respects_decoder, hrotation]
  · simp only [layout, List.forall_mem_cons, Field.slot_name]
    refine ⟨by simp, by simp, by simp, fun _ => Record.takesNull_slot ?_, by simp⟩
    rintro ⟨fromCorner, toCorner, faces, rotation⟩ rfl
    rfl

/-! ## Models -/

/-- The other ways to write a model. -/
def Model.Rewrite : Json → Json → Prop :=
  Model.layout.Rewrite [] fun name v v' =>
    name = "elements" ∧ Json.RewriteItem Element.Rewrite v v'

theorem Model.orderly_layout : Model.layout.Orderly where
  nodup := by decide
  isStrict := by
    simp [layout, Field.isStrict_slot, Decoder.isStrict_list, Element.isStrict_decoder,
      Decoder.isStrict_entries, Decoder.isStrict_text]
  fills := by simp [layout, Field.fills_slot]
  isSet_start := by simp [layout, Field.slot]
  independent := by simp [layout, Field.independent_slot]

/-- What is read as a model has no faults. -/
theorem Model.isStrict_decoder : Model.decoder.IsStrict :=
  Record.isStrict_decode Model.orderly_layout.isStrict

/-- A model is read as the same one however it is written. -/
theorem Model.respects_decoder : Model.decoder.Respects Model.Rewrite := by
  have helements : (Decoder.list Element.decoder).Respects (Json.RewriteItem Element.Rewrite) :=
    Decoder.respects_list Element.respects_decoder
  refine Record.Flexible.respects_decode ⟨Model.orderly_layout, ?_, fun _ _ h => by cases h⟩
  simp [layout, Field.respects_slot, Decoder.respects_false, helements]

end ModelPreview
