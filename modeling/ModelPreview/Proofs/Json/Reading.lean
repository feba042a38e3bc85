import Mathlib
import ModelPreview.Proofs.Json.Lexing

/-!
# Reading written trees

Decoding a written tree is decoding the tree itself, up to the spelling of its strings.  The trees
that the library builds are all written in full.

Main results:

- `Json.decodeText_render`: decoding a written tree.
- `Json.StringLiteral.text_asRead_ofText`: a text is read back.
- `Json.wellFormed_single`, `Decoder.single_of_isFinite` and `Decoder.single_of_not_isFinite`:
  numbers are read back exactly if they are finite.
-/

namespace ModelPreview
namespace Json

/-- Decoding a written tree is decoding the tree. -/
theorem decodeText_render {j : Json} (hj : j.WellFormed) (d : Decoder α) :
    decodeText d j.render = d j.asRead :=
  decodeText_of_written (written_render hj) d

/-! ## Strings -/

namespace StringLiteral

theorem isPlain_ofText (s : String) : (ofText s).IsPlain := by
  refine ⟨rfl, fun part hpart => ?_⟩
  obtain ⟨c, -, rfl⟩ := List.mem_map.1 hpart
  exact ⟨c, rfl⟩

/-- A code unit that is no surrogate stands for a character. -/
theorem chars_unit {u : ℕ} (hlead : isLeading u = false) (htrail : isTrailing u = false)
    (ps : List StringPart) :
    chars none (.unit u :: ps) = (do return Char.ofNat u :: (← chars none ps)) := by
  match ps with
  | [] => simp [chars, hlead, htrail]
  | .char c :: ps => simp [chars, hlead, htrail]
  | .unit v :: ps => simp [chars, hlead, htrail]

theorem chars_asRead (cs : List Char) :
    chars none (cs.map fun c => (StringPart.char c).asRead) = .ok cs := by
  induction cs with
  | nil => rfl
  | cons c cs ih =>
    rw [List.map_cons, StringPart.asRead]
    split
    · rename_i hcontrol
      have hlt := hcontrol.1
      rw [chars_unit (by simp [isLeading]; omega) (by simp [isTrailing]; omega), ih,
        Char.ofNat_toNat]
      rfl
    · rw [chars, ih]
      rfl

/-- A text is read back. -/
@[simp]
theorem text_asRead_ofText (s : String) : (ofText s).asRead.text = .ok s := by
  have h := chars_asRead s.toList
  simp only [text, asRead, ofText, List.map_map]
  rw [show (StringPart.asRead ∘ StringPart.char) = fun c => (StringPart.char c).asRead from rfl, h]
  change Except.ok (String.ofList s.toList) = _
  rw [String.ofList_toList]

end StringLiteral

/-! ## Built trees -/

theorem itemsAsRead_eq_map (vs : List Json) : itemsAsRead vs = vs.map asRead := by
  induction vs with
  | nil => rfl
  | cons v vs ih => rw [itemsAsRead, ih, List.map_cons]

theorem wellFormedItems_iff (vs : List Json) : WellFormedItems vs ↔ ∀ v ∈ vs, v.WellFormed := by
  induction vs with
  | nil => simp [WellFormedItems]
  | cons v vs ih => simp [WellFormedItems, ih]

/-- The members of an object, with their keys as texts. -/
def memberList (ms : List (String × Json)) : List (StringLiteral × Json) :=
  ms.map fun m => ((StringLiteral.ofText m.1).asRead, m.2)

@[simp]
theorem asRead_list (vs : List Json) : (list vs).asRead = .array (vs.map asRead) none := by
  rw [list, asRead, itemsAsRead_eq_map]

@[simp]
theorem wellFormed_list (vs : List Json) : (list vs).WellFormed ↔ ∀ v ∈ vs, v.WellFormed := by
  simp [list, WellFormed, wellFormedItems_iff]

@[simp]
theorem asRead_record (ms : List (String × Json)) :
    (record ms).asRead = .object (memberList (ms.map fun m => (m.1, m.2.asRead))) none := by
  rw [record, asRead]
  congr 1
  induction ms with
  | nil => rfl
  | cons m ms ih => simpa [membersAsRead, memberList] using ih

@[simp]
theorem wellFormed_record (ms : List (String × Json)) :
    (record ms).WellFormed ↔ ∀ m ∈ ms, m.2.WellFormed := by
  simp only [record, WellFormed, true_and]
  induction ms with
  | nil => simp [WellFormedMembers]
  | cons m ms ih => simp [WellFormedMembers, StringLiteral.isPlain_ofText, ih]

@[simp]
theorem wellFormed_text (s : String) : (text s).WellFormed := StringLiteral.isPlain_ofText s

@[simp]
theorem wellFormed_bool (b : Bool) : (bool b).WellFormed := rfl

/-! ## Numbers -/

/-- Every value is written in full, those that are not finite as `null`. -/
@[simp]
theorem wellFormed_single (x : Float32) : (single x).WellFormed := by
  unfold single
  cases hx : x.isFinite with
  | true =>
    obtain ⟨l, n, hl, hwf, -, -⟩ := exists_value_ofSingle? hx
    rw [hl]
    exact hwf
  | false =>
    rw [NumberLiteral.ofSingle?_of_not_isFinite hx]
    rfl

@[simp]
theorem asRead_single (x : Float32) : (single x).asRead = single x := by
  unfold single
  split <;> rfl

end Json

namespace Decoder

open Json

@[simp]
theorem text_asRead (s : String) : text (Json.text s).asRead = .ok s := by
  rw [Json.text, Json.asRead, text, StringLiteral.text_asRead_ofText]
  rfl

/-- A finite number is read back. -/
theorem single_of_isFinite {x : Float32} (hx : x.isFinite = true) :
    single (Json.single x) = .ok x := by
  obtain ⟨l, n, hl, -, hvalue, hback⟩ := exists_value_ofSingle? hx
  rw [Json.single, hl, single, hvalue, ← hback]
  rfl

/-- A number that is not finite is not read back. -/
theorem single_of_not_isFinite {x : Float32} (hx : x.isFinite = false) :
    single (Json.single x) = .error (.wrongType .null "f32") := by
  rw [Json.single, NumberLiteral.ofSingle?_of_not_isFinite hx]
  rfl

end Decoder
end ModelPreview
