import Mathlib
import ModelPreview.Proofs.Bridge.Transit

/-!
# Faults of models

A field of an element is faulty if one of its numbers is not finite.  Validation finds the first
element with a faulty field, and the first such field in a fixed order.  Since a message is
validated when it is read, nothing with a faulty field comes past a surface, however large the
numbers are in its text.

Main definitions:

- `NumericField.all`: the order in which the fields are looked at.
- `Element.fieldNumbers`: the numbers in a field.
- `Element.FirstFault`: the first faulty field of an element.

Main results:

- `Element.firstNonFinite?_eq_some_iff`: the first faulty field is found.
- `validateElements_eq_error_iff`: the first faulty element is found.
- `Model.validate_eq_error_iff`: the fault that is reported.
- `Model.validate_reports_first_fault`: what validation says, and what comes past a surface.
-/

namespace ModelPreview

/-! ## One element -/

/-- The fields in the order in which they are looked at. -/
def NumericField.all : List NumericField :=
  [.fromCorner, .toCorner, .rotationOrigin, .rotationAngle, .faceUv]

namespace Element

/-- The numbers in a field of an element; a part that is absent has none. -/
def fieldNumbers (e : Element) : NumericField → List Float32
  | .fromCorner => e.fromCorner.toList
  | .toCorner => e.toCorner.toList
  | .rotationOrigin => e.rotation.toList.flatMap (·.origin.toList)
  | .rotationAngle => e.rotation.toList.map (·.angle)
  | .faceUv => e.faces.toList.flatMap fun f => f.2.uv.toList.flatMap UvRect.toList

/-- A field is faulty, and no field in front of it is. -/
structure FirstFault (e : Element) (field : NumericField) : Prop where
  faulty : ¬ AllFinite (e.fieldNumbers field)
  first : ∃ front back, NumericField.all = front ++ field :: back ∧
    ∀ other ∈ front, AllFinite (e.fieldNumbers other)

theorem allFinite_numbers_iff (e : Element) :
    AllFinite e.numbers ↔ ∀ field, AllFinite (e.fieldNumbers field) := by
  have hangle : AllFinite (e.rotation.toList.map (·.angle)) ↔
      ∀ r ∈ e.rotation.toList, r.angle.isFinite = true := by
    simp [AllFinite]
  simp only [numbers, Faces.numbers, Rotation.numbers, allFinite_append, allFinite_flatMap,
    allFinite_cons, allFinite_nil, and_true, forall_and]
  constructor
  · rintro ⟨⟨⟨hfrom, hto⟩, hfaces⟩, horigin, hrotation⟩ field
    cases field with
    | fromCorner => exact hfrom
    | toCorner => exact hto
    | rotationOrigin => exact allFinite_flatMap.2 horigin
    | rotationAngle => exact hangle.2 hrotation
    | faceUv => exact allFinite_flatMap.2 hfaces
  · intro h
    exact ⟨⟨⟨h .fromCorner, h .toCorner⟩, allFinite_flatMap.1 (h .faceUv)⟩,
      allFinite_flatMap.1 (h .rotationOrigin), hangle.1 (h .rotationAngle)⟩

/-- The fields are looked at one after another. -/
theorem firstNonFinite?_eq_find? (e : Element) :
    e.firstNonFinite? =
      NumericField.all.find? fun field => ¬ AllFinite (e.fieldNumbers field) := by
  have hfrom : e.fromCorner.isFinite = decide (AllFinite (e.fieldNumbers .fromCorner)) := by
    rw [Bool.eq_iff_iff, decide_eq_true_iff, Vec3.isFinite_iff, fieldNumbers]
  have hto : e.toCorner.isFinite = decide (AllFinite (e.fieldNumbers .toCorner)) := by
    rw [Bool.eq_iff_iff, decide_eq_true_iff, Vec3.isFinite_iff, fieldNumbers]
  have horigin : e.rotation.any (!·.origin.isFinite) =
      !decide (AllFinite (e.fieldNumbers .rotationOrigin)) := by
    cases h : e.rotation with
    | none => simp [fieldNumbers, h]
    | some r =>
      rw [Option.any_some, Bool.not_inj_iff, Bool.eq_iff_iff, decide_eq_true_iff, Vec3.isFinite_iff]
      simp [fieldNumbers, h]
  have hangle : e.rotation.any (!·.angle.isFinite) =
      !decide (AllFinite (e.fieldNumbers .rotationAngle)) := by
    cases h : e.rotation <;> simp [fieldNumbers, h]
  have huv : (e.faces.toList.any fun f => f.2.uv.any (!·.isFinite)) =
      !decide (AllFinite (e.fieldNumbers .faceUv)) := by
    have hface (f : Face) : f.uv.any (!·.isFinite) = !decide (AllFinite f.numbers) := by
      cases h : f.uv with
      | none => simp [Face.numbers, h]
      | some r =>
        rw [Option.any_some, Bool.not_inj_iff, Bool.eq_iff_iff, decide_eq_true_iff,
          UvRect.isFinite_iff]
        simp [Face.numbers, h]
    rw [Bool.eq_iff_iff, fieldNumbers, Bool.not_eq_true', decide_eq_false_iff_not,
      allFinite_flatMap]
    simp only [hface, List.any_eq_true, Bool.not_eq_true', decide_eq_false_iff_not, not_forall,
      exists_prop]
    rfl
  unfold firstNonFinite?
  rw [hfrom, hto, horigin, hangle, huv]
  simp only [NumericField.all, List.find?_cons, List.find?_nil, decide_not]
  split_ifs <;> simp_all

theorem firstNonFinite?_eq_some_iff {e : Element} {field : NumericField} :
    e.firstNonFinite? = some field ↔ e.FirstFault field := by
  rw [firstNonFinite?_eq_find?, List.find?_eq_some_iff_append]
  simp only [decide_not, Bool.not_eq_true', Bool.not_not, decide_eq_false_iff_not,
    decide_eq_true_eq]
  exact ⟨fun h => ⟨h.1, h.2⟩, fun h => ⟨h.1, h.2⟩⟩

end Element

/-! ## All elements -/

/-- The index reported is the one of the first element that is not finite. -/
theorem validateElements_eq_error_iff {es : List Element} {start : Nat} {fault : NonFinite} :
    validateElements start es = .error fault ↔
      ∃ k e, fault.element = start + k ∧ es[k]? = some e ∧ e.FirstFault fault.field ∧
        ∀ e' ∈ es.take k, AllFinite e'.numbers := by
  induction es generalizing start with
  | nil => simp [validateElements]
  | cons e es ih =>
    rw [validateElements]
    cases hfirst : e.firstNonFinite? with
    | some field =>
      have hfault := Element.firstNonFinite?_eq_some_iff.1 hfirst
      have hnot : ¬ AllFinite e.numbers := by
        rw [← e.firstNonFinite?_eq_none_iff, hfirst]
        exact Option.some_ne_none field
      constructor
      · intro h
        cases h
        exact ⟨0, e, rfl, rfl, hfault, by simp⟩
      · rintro ⟨k, e', helement, he', hfield, hbefore⟩
        cases k with
        | succ k => exact absurd (hbefore e List.mem_cons_self) hnot
        | zero =>
          cases he'
          have hsame : some field = some fault.field :=
            hfirst.symm.trans (Element.firstNonFinite?_eq_some_iff.2 hfield)
          obtain ⟨element, field'⟩ := fault
          cases helement
          cases hsame
          rfl
    | none =>
      have hfinite := e.firstNonFinite?_eq_none_iff.1 hfirst
      refine ih.trans ⟨?_, ?_⟩
      · rintro ⟨k, e', helement, he', hfield, hbefore⟩
        refine ⟨k + 1, e', by omega, he', hfield, ?_⟩
        rw [List.take_succ_cons, List.forall_mem_cons]
        exact ⟨hfinite, hbefore⟩
      · rintro ⟨k, e', helement, he', hfield, hbefore⟩
        cases k with
        | zero =>
          cases he'
          have hfault := Element.firstNonFinite?_eq_some_iff.2 hfield
          rw [hfirst] at hfault
          cases hfault
        | succ k =>
          rw [List.take_succ_cons, List.forall_mem_cons] at hbefore
          exact ⟨k, e', by omega, he', hfield, hbefore.2⟩

namespace Model

theorem allFinite_numbers_iff (m : Model) :
    AllFinite m.numbers ↔ ∀ e ∈ m.elements, ∀ field, AllFinite (e.fieldNumbers field) := by
  rw [numbers, allFinite_flatMap]
  exact forall₂_congr fun e _ => e.allFinite_numbers_iff

theorem validate_eq_ok_iff {m : Model} : m.validate = .ok () ↔ AllFinite m.numbers :=
  ⟨m.yieldsIff_validate.of_eq_ok, m.yieldsIff_validate.eq_ok⟩

theorem validate_eq_error_iff {m : Model} {i : Nat} {field : NumericField} :
    m.validate = .error ⟨i, field⟩ ↔
      ∃ e, m.elements[i]? = some e ∧ e.FirstFault field ∧
        ∀ j < i, ∀ e', m.elements[j]? = some e' → ∀ other, AllFinite (e'.fieldNumbers other) := by
  have hbefore : (∀ e ∈ m.elements.take i, AllFinite e.numbers) ↔
      ∀ j < i, ∀ e, m.elements[j]? = some e → ∀ other, AllFinite (e.fieldNumbers other) := by
    simp only [List.mem_iff_getElem?, List.getElem?_take, Element.allFinite_numbers_iff]
    constructor
    · intro h j hj e he
      exact h e ⟨j, by rw [if_pos hj, he]⟩
    · rintro h e ⟨j, he⟩
      split_ifs at he with hj
      exact h j hj e he
  rw [validate, validateElements_eq_error_iff, ← hbefore]
  simp only [Nat.zero_add]
  constructor
  · rintro ⟨k, e, rfl, he, hfault, hfinite⟩
    exact ⟨e, he, hfault, hfinite⟩
  · rintro ⟨e, he, hfault, hfinite⟩
    exact ⟨i, e, rfl, he, hfault, hfinite⟩

end Model

/-! ## What comes past a surface -/

namespace Model

/-- A model is valid exactly if all fields of its elements are finite, and otherwise the first faulty
field of the first element that has one is reported.  A message that is read has no faulty field.  A
surface with a handler takes all texts that wait for it, hands over what it can read among them in
their order, none of it with a faulty field, and counts what it hands over. -/
theorem validate_reports_first_fault {σ : Type} (handle : σ → RenderMessage → Logged σ) (st : σ) :
    NumericField.all.map NumericField.path =
      ["from", "to", "rotation.origin", "rotation.angle", "faces.uv"] ∧
    (∀ m : Model, m.validate = .ok () ↔
      ∀ e ∈ m.elements, ∀ field, AllFinite (e.fieldNumbers field)) ∧
    (∀ (m : Model) i field, m.validate = .error ⟨i, field⟩ ↔
      ∃ e, m.elements[i]? = some e ∧ e.FirstFault field ∧
        ∀ j < i, ∀ e', m.elements[j]? = some e' → ∀ other, AllFinite (e'.fieldNumbers other)) ∧
    (∀ payload m, RenderMessage.decode payload = .ok m →
      ∀ e ∈ m.model.elements, ∀ field, AllFinite (e.fieldNumbers field)) ∧
    (∀ (b : SurfaceBridge) (l : Link), b.attached = true → ∃ delivered : List RenderMessage,
      delivered = l.surface.unread.filterMap (fun p => (RenderMessage.decode p).toOption) ∧
      (b.pump l handle st).value = ({ l with surface := { l.surface with unread := [] } },
        delivered.foldl (fun st m => (handle st m).value) st, delivered.length) ∧
      ∀ m ∈ delivered, ∀ e ∈ m.model.elements, ∀ field, AllFinite (e.fieldNumbers field)) := by
  have hread : ∀ payload m, RenderMessage.decode payload = .ok m →
      ∀ e ∈ m.model.elements, ∀ field, AllFinite (e.fieldNumbers field) := fun payload m hdecode =>
    m.model.allFinite_numbers_iff.1 (RenderMessage.allFinite_of_decode hdecode)
  refine ⟨rfl, fun m => validate_eq_ok_iff.trans m.allFinite_numbers_iff,
    fun m i field => validate_eq_error_iff, hread, ?_⟩
  intro b l hattached
  refine ⟨SurfaceBridge.accepted l.surface.unread, rfl,
    SurfaceBridge.pump_value hattached l handle st, ?_⟩
  intro m hm
  obtain ⟨payload, -, hdecode⟩ := SurfaceBridge.mem_accepted_iff.1 hm
  exact hread payload m hdecode

/-- A model whose second element has no finite corner and no finite angle. -/
def unboundedModel : Model where
  elements := [
    { fromCorner := ⟨0, 0, 0⟩, toCorner := ⟨1, 1, 1⟩ },
    { fromCorner := ⟨0, 0, 0⟩, toCorner := ⟨1, .ofBits 0x7f800000, 1⟩,
      rotation := some ⟨⟨0, 0, 0⟩, .x, .ofBits 0x7fc00000, false⟩ }]

/-- A payload with one element that has a given coordinate. -/
def payloadWith (coordinate : String) : String :=
  "\x7b\"RenderModel\":\x7b\"model\":\x7b\"elements\":[\x7b\"from\":[" ++ coordinate ++
    ",0,0],\"to\":[1,1,1]\x7d]\x7d\x7d\x7d"

/-- The corner comes before the angle.  Of two texts the one with a number that is too large is taken
and not handed over. -/
theorem validate_unboundedModel :
    unboundedModel.validate = .error ⟨1, .toCorner⟩ ∧
    ∃ l : Link, l.surface.unread = [payloadWith "1e39", payloadWith "0"] ∧
      ((SurfaceBridge.mk true true).pump l (fun (n : Nat) _ => pure (n + 1)) 0).value =
        ({ l with surface := { l.surface with unread := [] } }, 1, 1) := by
  have h := validate_reports_first_fault (fun (n : Nat) _ => pure (n + 1)) 0
  constructor
  · rw [h.2.2.1]
    refine ⟨_, rfl, ⟨by decide +kernel, [.fromCorner], _, rfl, by decide +kernel⟩, ?_⟩
    intro j hj e he field
    obtain rfl : j = 0 := Nat.lt_one_iff.1 hj
    cases he
    cases field <;> decide +kernel
  · let l : Link := { surface := { unread := [payloadWith "1e39", payloadWith "0"] } }
    refine ⟨l, rfl, ?_⟩
    obtain ⟨delivered, hdelivered, hpump, -⟩ := h.2.2.2.2 (SurfaceBridge.mk true true) l rfl
    have hlength : delivered.length = 1 := by
      rw [hdelivered]
      decide +kernel
    obtain ⟨m, rfl⟩ := List.length_eq_one_iff.1 hlength
    exact hpump

end Model
end ModelPreview
