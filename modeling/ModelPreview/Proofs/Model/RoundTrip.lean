import Mathlib
import ModelPreview.Model.Json
import ModelPreview.Model.Validation
import ModelPreview.Proofs.Json.Reading
import ModelPreview.Proofs.Collections

/-!
# Models read back

A model whose numbers are all finite is read back from its written form.  A number that is not
finite is written as `null`, which no number is read from, so the written form of a model with such
a number is not read at all.  Both directions go through every structure at once: a computation
`YieldsIff` a condition if it succeeds with a known value under the condition and fails otherwise.

Main definitions:

- `YieldsIff`: when a computation succeeds, and with what.
- `Model.numbers`: all numbers of a model.

Main results:

- `Record.yieldsIff_readAll_slot` and `Record.yieldsIff_readAll_optional`: reading the members of a
  structure.
- `Model.yieldsIff_decoder`: a model is read back exactly if its numbers are finite.
- `Model.yieldsIff_validate`: a model is valid exactly if its numbers are finite.
-/

namespace ModelPreview

open Json

/-! ## When a computation succeeds -/

/-- A computation that yields a value if a condition holds and fails otherwise. -/
structure YieldsIff {ε α : Type} (x : Except ε α) (p : Prop) (a : α) : Prop where
  /-- Under the condition the value is returned. -/
  eq_ok : p → x = .ok a
  /-- Without it there is an error. -/
  exists_error : ¬ p → ∃ e, x = .error e

namespace YieldsIff

variable {ε ε' α β : Type} {x : Except ε α} {p q : Prop} {a : α} {b : β}

theorem pure (a : α) : YieldsIff (.ok a : Except ε α) True a :=
  ⟨fun _ => rfl, fun h => absurd trivial h⟩

theorem of_iff (h : YieldsIff x p a) (hpq : p ↔ q) : YieldsIff x q a :=
  ⟨fun hq => h.eq_ok (hpq.2 hq), fun hq => h.exists_error fun hp => hq (hpq.1 hp)⟩

/-- Whatever such a computation returns, it returns under its condition. -/
theorem of_eq_ok (h : YieldsIff x p a) {a' : α} (hx : x = .ok a') : p := by
  by_contra hp
  obtain ⟨e, he⟩ := h.exists_error hp
  rw [hx] at he
  cases he

theorem bind (hx : YieldsIff x p a) {f : α → Except ε β} (hf : YieldsIff (f a) q b) :
    YieldsIff (x >>= f) (p ∧ q) b := by
  by_cases hp : p
  · rw [hx.eq_ok hp]
    exact hf.of_iff ⟨fun hq => ⟨hp, hq⟩, fun h => h.2⟩
  · obtain ⟨e, rfl⟩ := hx.exists_error hp
    exact ⟨fun h => absurd h.1 hp, fun _ => ⟨e, rfl⟩⟩

theorem map (hx : YieldsIff x p a) (f : α → β) : YieldsIff (f <$> x) p (f a) := by
  refine ⟨fun hp => ?_, fun hp => ?_⟩
  · rw [hx.eq_ok hp]
    rfl
  · obtain ⟨e, rfl⟩ := hx.exists_error hp
    exact ⟨e, rfl⟩

theorem mapError (hx : YieldsIff x p a) (f : ε → ε') : YieldsIff (x.mapError f) p a := by
  refine ⟨fun hp => ?_, fun hp => ?_⟩
  · rw [hx.eq_ok hp]
    rfl
  · obtain ⟨e, rfl⟩ := hx.exists_error hp
    exact ⟨f e, rfl⟩

theorem mapM {γ : Type} {f : γ → Except ε α} {cond : γ → Prop} {value : γ → α} (cs : List γ)
    (h : ∀ c ∈ cs, YieldsIff (f c) (cond c) (value c)) :
    YieldsIff (cs.mapM f) (∀ c ∈ cs, cond c) (cs.map value) := by
  induction cs with
  | nil => exact (pure []).of_iff (by simp)
  | cons c cs ih =>
    rw [List.mapM_cons, List.map_cons]
    have hrest := ih fun c' hc' => h c' (List.mem_cons_of_mem c hc')
    have hlist : YieldsIff (do return value c :: (← cs.mapM f)) _ (value c :: cs.map value) :=
      hrest.bind (pure _)
    refine ((h c List.mem_cons_self).bind hlist).of_iff ?_
    simp

end YieldsIff

/-! ## Structures -/

namespace Record

variable {σ α β γ : Type} {r : Record σ α} {s s' : σ} {p q : Prop}

/-- Read the members of a written object into a draft. -/
def readAll (r : Record σ α) (s : σ) (ms : List (String × Json)) : Except DecodeError σ :=
  ms.foldlM (fun s m => r.readMember s ((StringLiteral.ofText m.1).asRead, m.2.asRead)) s

/-- A structure is read from a written object member by member. -/
theorem decode_record (r : Record σ α) (ms : List (String × Json)) :
    r.decode (record ms).asRead = r.readAll r.start ms >>= r.finish := by
  rw [asRead_record, decode, readAll, memberList, List.map_map, List.foldlM_map]
  rfl

theorem yieldsIff_decode {ms : List (String × Json)} {a : α}
    (hread : YieldsIff (r.readAll r.start ms) p s) (hfinish : r.finish s = .ok a) :
    YieldsIff (r.decode (record ms).asRead) p a := by
  have hfinished : YieldsIff (r.finish s) True a := hfinish ▸ .pure a
  rw [decode_record]
  exact (hread.bind hfinished).of_iff (by simp)

theorem yieldsIff_readAll_nil (r : Record σ α) (s : σ) : YieldsIff (r.readAll s []) True s := .pure s

/-- A member that fills a free slot. -/
theorem yieldsIff_readAll_slot {name : String} {required : Bool} {d : Decoder β}
    {get : σ → Option β} {set : σ → β → σ}
    (hfield : r.fields.find? (·.name = name) = some (.slot name required d get set))
    (hfree : get s = none) {j : Json} {b : β} (hread : YieldsIff (d j.asRead) p b)
    {ms : List (String × Json)} (hrest : YieldsIff (r.readAll (set s b) ms) q s') :
    YieldsIff (r.readAll s ((name, j) :: ms)) (p ∧ q) s' := by
  have hmember : r.readMember s ((StringLiteral.ofText name).asRead, j.asRead)
      = (set s) <$> d j.asRead := by
    simp only [readMember, StringLiteral.text_asRead_ofText, orFault, Except.mapError, bind,
      Except.bind, hfield]
    simp [Field.slot, hfree]
  rw [readAll, List.foldlM_cons, hmember]
  exact (hread.map (set s)).bind hrest

/-- A member that is written only if there is something to write; `fill` is the draft as a function
of the slot of the member. -/
theorem yieldsIff_readAll_optional {name : String} {required : Bool} {d : Decoder β}
    {get : σ → Option β} {set : σ → β → σ} (fill : Option β → σ)
    (hfield : r.fields.find? (·.name = name) = some (.slot name required d get set))
    (hfree : get (fill none) = none) (hset : ∀ b, set (fill none) b = fill (some b))
    {write : γ → Json} {cond : γ → Prop} {value : γ → β}
    (hread : ∀ c, YieldsIff (d (write c).asRead) (cond c) (value c)) {o : Option γ}
    {ms : List (String × Json)} (hrest : YieldsIff (r.readAll (fill (o.map value)) ms) q s') :
    YieldsIff (r.readAll (fill none) ((o.map fun c => (name, write c)).toList ++ ms))
      ((∀ c ∈ o, cond c) ∧ q) s' := by
  cases o with
  | none => exact hrest.of_iff (by simp)
  | some c =>
    have hfilled := yieldsIff_readAll_slot hfield hfree (hread c) (hset (value c) ▸ hrest)
    exact hfilled.of_iff (by simp)

end Record

/-! ## Values -/

namespace Decoder

variable {α β : Type} {d : Decoder α} {p₁ p₂ p₃ p₄ : Prop} {a₁ a₂ a₃ a₄ : α} {j₁ j₂ j₃ j₄ : Json}

theorem yieldsIff_single (x : Float32) :
    YieldsIff (single (Json.single x).asRead) (x.isFinite = true) x := by
  rw [asRead_single]
  exact ⟨single_of_isFinite, fun hx => ⟨_, single_of_not_isFinite (by simpa using hx)⟩⟩

theorem yieldsIff_text (s : String) : YieldsIff (text (Json.text s).asRead) True s :=
  ⟨fun _ => text_asRead s, fun h => absurd trivial h⟩

theorem yieldsIff_bool (b : Bool) : YieldsIff (bool (Json.bool b).asRead) True b := by
  refine ⟨fun _ => ?_, fun h => absurd trivial h⟩
  cases b <;> rfl

theorem yieldsIff_triple {make : α → α → α → β} (h₁ : YieldsIff (d j₁.asRead) p₁ a₁)
    (h₂ : YieldsIff (d j₂.asRead) p₂ a₂) (h₃ : YieldsIff (d j₃.asRead) p₃ a₃) :
    YieldsIff (triple d make (Json.list [j₁, j₂, j₃]).asRead) (p₁ ∧ p₂ ∧ p₃) (make a₁ a₂ a₃) := by
  have hitems : triple d make (Json.list [j₁, j₂, j₃]).asRead
      = do return make (← d j₁.asRead) (← d j₂.asRead) (← d j₃.asRead) := by
    rw [asRead_list]
    simp only [triple, item, List.map_cons, List.map_nil, bind_assoc, pure_bind]
    rfl
  rw [hitems]
  exact (h₁.bind (h₂.bind (h₃.bind (.pure (make a₁ a₂ a₃))))).of_iff (by simp)

theorem yieldsIff_quadruple {make : α → α → α → α → β} (h₁ : YieldsIff (d j₁.asRead) p₁ a₁)
    (h₂ : YieldsIff (d j₂.asRead) p₂ a₂) (h₃ : YieldsIff (d j₃.asRead) p₃ a₃)
    (h₄ : YieldsIff (d j₄.asRead) p₄ a₄) :
    YieldsIff (quadruple d make (Json.list [j₁, j₂, j₃, j₄]).asRead) (p₁ ∧ p₂ ∧ p₃ ∧ p₄)
      (make a₁ a₂ a₃ a₄) := by
  have hitems : quadruple d make (Json.list [j₁, j₂, j₃, j₄]).asRead
      = do return make (← d j₁.asRead) (← d j₂.asRead) (← d j₃.asRead) (← d j₄.asRead) := by
    rw [asRead_list]
    simp only [quadruple, item, List.map_cons, List.map_nil, bind_assoc, pure_bind]
    rfl
  rw [hitems]
  exact (h₁.bind (h₂.bind (h₃.bind (h₄.bind (.pure (make a₁ a₂ a₃ a₄)))))).of_iff (by simp)

/-- A list is read item by item. -/
theorem yieldsIff_list {γ : Type} {write : γ → Json} {cond : γ → Prop} {value : γ → α}
    (cs : List γ) (h : ∀ c ∈ cs, YieldsIff (d (write c).asRead) (cond c) (value c)) :
    YieldsIff (list d (Json.list (cs.map write)).asRead) (∀ c ∈ cs, cond c) (cs.map value) := by
  have hitems : list d (Json.list (cs.map write)).asRead
      = cs.mapM (fun c => d (write c).asRead) >>= Except.ok := by
    rw [asRead_list, list, List.map_map, List.mapM_map]
    rfl
  rw [hitems]
  exact ((YieldsIff.mapM cs h).bind (.pure _)).of_iff (by simp)

/-- An object and an array are not left out. -/
theorem option_record (d : Decoder α) (ms : List (String × Json)) :
    option d (record ms).asRead = some <$> d (record ms).asRead := by
  rw [asRead_record]
  rfl

theorem option_list (d : Decoder α) (vs : List Json) :
    option d (Json.list vs).asRead = some <$> d (Json.list vs).asRead := by
  rw [asRead_list]
  rfl

end Decoder

/-! ## The numbers of a model -/

/-- Whether all numbers of a list are finite. -/
def AllFinite (xs : List Float32) : Prop := ∀ x ∈ xs, x.isFinite = true

instance (xs : List Float32) : Decidable (AllFinite xs) :=
  inferInstanceAs (Decidable (∀ x ∈ xs, x.isFinite = true))

@[simp]
theorem allFinite_nil : AllFinite [] := nofun

@[simp]
theorem allFinite_cons {x : Float32} {xs : List Float32} :
    AllFinite (x :: xs) ↔ x.isFinite = true ∧ AllFinite xs := by
  simp [AllFinite]

@[simp]
theorem allFinite_append {xs ys : List Float32} :
    AllFinite (xs ++ ys) ↔ AllFinite xs ∧ AllFinite ys := by
  simp [AllFinite, or_imp, forall_and]

@[simp]
theorem allFinite_flatMap {α : Type} {as : List α} {f : α → List Float32} :
    AllFinite (as.flatMap f) ↔ ∀ a ∈ as, AllFinite (f a) := by
  constructor
  · intro h a ha x hx
    exact h x (List.mem_flatMap.2 ⟨a, ha, hx⟩)
  · intro h x hx
    obtain ⟨a, ha, hx⟩ := List.mem_flatMap.1 hx
    exact h a ha x hx

/-- The numbers of a face. -/
def Face.numbers (f : Face) : List Float32 := f.uv.toList.flatMap UvRect.toList

/-- The numbers of the faces of an element. -/
def Faces.numbers (f : Faces) : List Float32 := f.toList.flatMap fun e => e.2.numbers

/-- The numbers of a rotation. -/
def Rotation.numbers (r : Rotation) : List Float32 := r.origin.toList ++ [r.angle]

/-- The numbers of an element. -/
def Element.numbers (e : Element) : List Float32 :=
  e.fromCorner.toList ++ e.toCorner.toList ++ e.faces.numbers
    ++ e.rotation.toList.flatMap Rotation.numbers

/-- The numbers of a model. -/
def Model.numbers (m : Model) : List Float32 := m.elements.flatMap Element.numbers

/-- The faces in their order, one after another. -/
theorem Faces.toList_eq (f : Faces) :
    f.toList = (f.up.map (Direction.up, ·)).toList ++ ((f.down.map (Direction.down, ·)).toList
      ++ ((f.north.map (Direction.north, ·)).toList ++ ((f.south.map (Direction.south, ·)).toList
      ++ ((f.east.map (Direction.east, ·)).toList ++ ((f.west.map (Direction.west, ·)).toList
      ++ []))))) := by
  have hcons (d : Direction) (ds : List Direction) :
      (d :: ds).filterMap (fun d => (f.get? d).map (d, ·))
        = ((f.get? d).map (d, ·)).toList ++ ds.filterMap fun d => (f.get? d).map (d, ·) := by
    rw [List.filterMap_cons]
    cases f.get? d <;> rfl
  simp only [toList, Direction.all, hcons]
  rfl

theorem Faces.allFinite_numbers_iff (f : Faces) :
    AllFinite f.numbers ↔ (∀ face ∈ f.up, AllFinite face.numbers)
      ∧ (∀ face ∈ f.down, AllFinite face.numbers) ∧ (∀ face ∈ f.north, AllFinite face.numbers)
      ∧ (∀ face ∈ f.south, AllFinite face.numbers) ∧ (∀ face ∈ f.east, AllFinite face.numbers)
      ∧ (∀ face ∈ f.west, AllFinite face.numbers) := by
  have hoption (o : Option Face) (d : Direction) :
      AllFinite ((o.map (d, ·)).toList.flatMap fun e => e.2.numbers)
        ↔ ∀ face ∈ o, AllFinite face.numbers := by
    cases o <;> simp
  simp only [numbers, toList_eq, List.flatMap_append, allFinite_append, hoption, List.flatMap_nil,
    allFinite_nil, and_true]

/-! ## The structures of a model -/

/-- A part that was read if it is there is the part. -/
@[simp]
theorem join_map_some {α : Type} (o : Option α) : (o.map some).join = o := by cases o <;> rfl

theorem Vec3.yieldsIff_decoder (v : Vec3 Float32) :
    YieldsIff (decoder v.toJson.asRead) (AllFinite v.toList) v := by
  refine (Decoder.yieldsIff_triple (Decoder.yieldsIff_single v.x) (Decoder.yieldsIff_single v.y)
    (Decoder.yieldsIff_single v.z)).of_iff ?_
  simp [toList]

theorem UvRect.yieldsIff_decoder (r : UvRect) :
    YieldsIff (decoder r.toJson.asRead) (AllFinite r.toList) r := by
  refine (Decoder.yieldsIff_quadruple (Decoder.yieldsIff_single r.u0)
    (Decoder.yieldsIff_single r.v0) (Decoder.yieldsIff_single r.u1)
    (Decoder.yieldsIff_single r.v1)).of_iff ?_
  simp [toList]

theorem Face.yieldsIff_decoder (f : Face) :
    YieldsIff (decoder f.toJson.asRead) (AllFinite f.numbers) f := by
  have hoption (r : UvRect) :
      YieldsIff (Decoder.option UvRect.decoder r.toJson.asRead) (AllFinite r.toList) (some r) := by
    rw [UvRect.toJson, Decoder.option_list]
    exact (UvRect.yieldsIff_decoder r).map some
  rw [decoder, toJson, ← List.append_nil (Option.toList _)]
  refine (Record.yieldsIff_decode (Record.yieldsIff_readAll_slot rfl rfl
    (Decoder.yieldsIff_text f.texture) (Record.yieldsIff_readAll_optional
      (Draft.mk (some f.texture)) rfl rfl (fun _ => rfl) hoption
    (Record.yieldsIff_readAll_nil _ _))) ?_).of_iff ?_
  · simp [layout, Option.orMissing]
  · simp [numbers]

theorem Faces.yieldsIff_decoder (f : Faces) :
    YieldsIff (decoder f.toJson.asRead) (AllFinite f.numbers) f := by
  have hoption (face : Face) : YieldsIff (Decoder.option Face.decoder face.toJson.asRead)
      (AllFinite face.numbers) (some face) := by
    rw [Face.toJson, Decoder.option_record]
    exact (Face.yieldsIff_decoder face).map some
  have hmembers (d : Direction) (o : Option Face) :
      (o.map (d, ·)).toList.map (fun e => (e.1.name, e.2.toJson))
        = (o.map fun face => (d.name, face.toJson)).toList := by
    cases o <;> rfl
  obtain ⟨up, down, north, south, east, west⟩ := f
  rw [decoder, toJson, toList_eq]
  simp only [List.map_append, hmembers]
  refine (Record.yieldsIff_decode
    (Record.yieldsIff_readAll_optional (Draft.mk · none none none none none)
      rfl rfl (fun _ => rfl) hoption
    (Record.yieldsIff_readAll_optional (Draft.mk (up.map some) · none none none none)
      rfl rfl (fun _ => rfl) hoption
    (Record.yieldsIff_readAll_optional (Draft.mk (up.map some) (down.map some) · none none none)
      rfl rfl (fun _ => rfl) hoption
    (Record.yieldsIff_readAll_optional
      (Draft.mk (up.map some) (down.map some) (north.map some) · none none)
      rfl rfl (fun _ => rfl) hoption
    (Record.yieldsIff_readAll_optional
      (Draft.mk (up.map some) (down.map some) (north.map some) (south.map some) · none)
      rfl rfl (fun _ => rfl) hoption
    (Record.yieldsIff_readAll_optional
      (Draft.mk (up.map some) (down.map some) (north.map some) (south.map some) (east.map some) ·)
      rfl rfl (fun _ => rfl) hoption
    (Record.yieldsIff_readAll_nil _ _))))))) ?_).of_iff ?_
  · simp [layout]
  · simp [allFinite_numbers_iff]

theorem Axis.yieldsIff_decoder (a : Axis) :
    YieldsIff (decoder (Json.text a.name).asRead) True a := by
  refine ⟨fun _ => ?_, fun h => absurd trivial h⟩
  rw [Json.text, asRead, decoder, Decoder.tagged, StringLiteral.text_asRead_ofText]
  cases a <;> rfl

theorem Rotation.yieldsIff_decoder (r : Rotation) :
    YieldsIff (decoder r.toJson.asRead) (AllFinite r.numbers) r := by
  rw [decoder, toJson]
  refine (Record.yieldsIff_decode
    (Record.yieldsIff_readAll_slot rfl rfl (Vec3.yieldsIff_decoder r.origin)
    (Record.yieldsIff_readAll_slot rfl rfl (Axis.yieldsIff_decoder r.axis)
    (Record.yieldsIff_readAll_slot rfl rfl (Decoder.yieldsIff_single r.angle)
    (Record.yieldsIff_readAll_slot rfl rfl (Decoder.yieldsIff_bool r.rescale)
    (Record.yieldsIff_readAll_nil _ _))))) rfl).of_iff ?_
  simp [numbers]

theorem Element.yieldsIff_decoder (e : Element) :
    YieldsIff (decoder e.toJson.asRead) (AllFinite e.numbers) e := by
  have hoption (r : Rotation) : YieldsIff (Decoder.option Rotation.decoder r.toJson.asRead)
      (AllFinite r.numbers) (some r) := by
    rw [Rotation.toJson, Decoder.option_record]
    exact (Rotation.yieldsIff_decoder r).map some
  rw [decoder, toJson, ← List.append_nil (Option.toList _)]
  refine (Record.yieldsIff_decode
    (Record.yieldsIff_readAll_slot rfl rfl (Vec3.yieldsIff_decoder e.fromCorner)
    (Record.yieldsIff_readAll_slot rfl rfl (Vec3.yieldsIff_decoder e.toCorner)
    (Record.yieldsIff_readAll_slot rfl rfl (Faces.yieldsIff_decoder e.faces)
    (Record.yieldsIff_readAll_optional
      (Draft.mk (some e.fromCorner) (some e.toCorner) (some e.faces)) rfl rfl (fun _ => rfl) hoption
    (Record.yieldsIff_readAll_nil _ _))))) ?_).of_iff ?_
  · change Except.ok (mk e.fromCorner e.toCorner e.faces (e.rotation.map some).join) = .ok e
    rw [join_map_some]
  · simp [numbers]

/-- Entries with texts are read one after another. -/
theorem foldlM_readEntry (es : List (String × String)) (t : SortedMap String String) :
    (memberList (es.map fun e => (e.1, (Json.text e.2).asRead))).foldlM
        (fun t m => do
          let key ← orFault m.1.text
          return SortedMap.insert t key (← Decoder.text m.2)) t
      = .ok (es.foldl (fun t e => t.insert e.1 e.2) t) := by
  induction es generalizing t with
  | nil => rfl
  | cons e es ih =>
    simp only [memberList, List.map_cons, List.foldlM_cons, List.foldl_cons] at ih ⊢
    rw [StringLiteral.text_asRead_ofText, Decoder.text_asRead, ← ih]
    rfl

/-- Texture variables are read back. -/
theorem yieldsIff_textures (t : SortedMap String String) :
    YieldsIff (Decoder.entries .text SortedMap.insert ∅
      (record (t.entries.map fun e => (e.1, Json.text e.2))).asRead) True t := by
  have hread := foldlM_readEntry t.entries ∅
  have hback : t.entries.foldl (fun t e => t.insert e.1 e.2) ∅ = t := SortedMap.ofList_entries t
  rw [hback] at hread
  refine ⟨fun _ => ?_, fun h => absurd trivial h⟩
  rw [asRead_record, Decoder.entries, List.map_map]
  simp only [Function.comp_def, hread]
  rfl

theorem Model.yieldsIff_decoder (m : Model) :
    YieldsIff (decoder m.toJson.asRead) (AllFinite m.numbers) m := by
  have helements := Decoder.yieldsIff_list m.elements fun e _ => Element.yieldsIff_decoder e
  rw [List.map_id'] at helements
  rw [decoder, toJson]
  split
  · rename_i hempty
    have htextures : m.textures = ∅ := SortedMap.ext_entries (List.isEmpty_iff.1 hempty)
    refine (Record.yieldsIff_decode (Record.yieldsIff_readAll_slot rfl rfl helements
      (Record.yieldsIff_readAll_nil _ _)) ?_).of_iff (by simp [numbers])
    change Except.ok (mk m.elements ∅) = .ok m
    rw [← htextures]
  · exact (Record.yieldsIff_decode (Record.yieldsIff_readAll_slot rfl rfl helements
      (Record.yieldsIff_readAll_slot rfl rfl (yieldsIff_textures m.textures)
      (Record.yieldsIff_readAll_nil _ _))) rfl).of_iff (by simp [numbers])

/-! ## Written models -/

theorem Vec3.wellFormed_toJson (v : Vec3 Float32) : v.toJson.WellFormed := by
  simp [toJson]

theorem UvRect.wellFormed_toJson (r : UvRect) : r.toJson.WellFormed := by
  simp [toJson]

theorem Face.wellFormed_toJson (f : Face) : f.toJson.WellFormed := by
  simp [toJson, UvRect.wellFormed_toJson]

theorem Faces.wellFormed_toJson (f : Faces) : f.toJson.WellFormed := by
  rw [toJson, wellFormed_record]
  intro m hm
  obtain ⟨e, -, rfl⟩ := List.mem_map.1 hm
  exact Face.wellFormed_toJson e.2

theorem Rotation.wellFormed_toJson (r : Rotation) : r.toJson.WellFormed := by
  simp [toJson, Vec3.wellFormed_toJson]

theorem Element.wellFormed_toJson (e : Element) : e.toJson.WellFormed := by
  simp [toJson, Vec3.wellFormed_toJson, Faces.wellFormed_toJson, Rotation.wellFormed_toJson]

/-- Every model is written in full. -/
theorem Model.wellFormed_toJson (m : Model) : m.toJson.WellFormed := by
  have htextures : (record (m.textures.entries.map fun e => (e.1, Json.text e.2))).WellFormed := by
    rw [wellFormed_record]
    intro m hm
    obtain ⟨e, -, rfl⟩ := List.mem_map.1 hm
    exact wellFormed_text e.2
  rw [toJson]
  split
  · simp [Element.wellFormed_toJson]
  · simpa [Element.wellFormed_toJson] using htextures

/-! ## Valid models -/

theorem Vec3.isFinite_iff (v : Vec3 Float32) : v.isFinite = true ↔ AllFinite v.toList := by
  simp [isFinite, toList, and_assoc]

theorem UvRect.isFinite_iff (r : UvRect) : r.isFinite = true ↔ AllFinite r.toList := by
  simp [isFinite, toList, and_assoc]

/-- Validation finds nothing wrong with an element exactly if all its numbers are finite. -/
theorem Element.firstNonFinite?_eq_none_iff (e : Element) :
    e.firstNonFinite? = none ↔ AllFinite e.numbers := by
  have hfield (failed : Bool) (field : NumericField) (rest : Option NumericField) :
      (if failed then some field else rest) = none ↔ failed = false ∧ rest = none := by
    cases failed <;> simp
  have hpart {α : Type} (part : Option α) (test : α → Bool) :
      part.any (!test ·) = false ↔ ∀ a ∈ part, test a = true := by
    cases part <;> simp
  simp only [firstNonFinite?, hfield]
  simp only [Bool.not_eq_false', List.any_eq_false, Bool.not_eq_true, hpart, Vec3.isFinite_iff,
    UvRect.isFinite_iff, and_true]
  simp only [numbers, Faces.numbers, Face.numbers, Rotation.numbers, allFinite_append,
    allFinite_flatMap, allFinite_cons, allFinite_nil, and_true, Option.mem_toList, forall_and]
  tauto

theorem yieldsIff_validateElements (es : List Element) (index : ℕ) :
    YieldsIff (validateElements index es) (AllFinite (es.flatMap Element.numbers)) () := by
  induction es generalizing index with
  | nil => exact (YieldsIff.pure ()).of_iff (by simp)
  | cons e es ih =>
    rw [validateElements]
    by_cases he : AllFinite e.numbers
    · rw [e.firstNonFinite?_eq_none_iff.2 he]
      exact (ih (index + 1)).of_iff (by simp [he])
    · obtain ⟨field, hfield⟩ := Option.ne_none_iff_exists'.1
        (mt e.firstNonFinite?_eq_none_iff.1 he)
      rw [hfield]
      refine ⟨fun h => absurd ?_ he, fun _ => ⟨_, rfl⟩⟩
      rw [List.flatMap_cons, allFinite_append] at h
      exact h.1

theorem Model.yieldsIff_validate (m : Model) : YieldsIff m.validate (AllFinite m.numbers) () :=
  yieldsIff_validateElements m.elements 0

end ModelPreview
