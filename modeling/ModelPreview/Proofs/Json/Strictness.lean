import Mathlib
import ModelPreview.Proofs.Json.Writing

/-!
# Decoders see every fault

A decoder walks over all of a tree, also over the members it has no use for, so what it accepts has
no fault anywhere.  Each combinator passes this on from the decoders it is made of.

Main results:

- `Decoder.isStrict_single` and its likes: one lemma for each decoder and combinator.
- `Record.isStrict_decode`: structures.
-/

namespace ModelPreview

open Json

/-! ## Literals -/

variable {α β σ : Type}

theorem Json.orFault_eq_ok_iff {x : Except Fault α} {a : α} : orFault x = .ok a ↔ x = .ok a :=
  mapError_eq_ok_iff

/-- A number that has a value is complete. -/
theorem Json.NumberLiteral.fault_eq_of_value {l : NumberLiteral} {n : Number}
    (h : l.value = .ok n) : l.fault = none := by
  unfold value at h
  cases hfault : l.fault with
  | none => rfl
  | some f =>
    rw [hfault] at h
    cases h

/-- The pieces of a string that has a text are followed by its end. -/
theorem Json.StringLiteral.fault_eq_of_chars {f : Option Fault} {ps : List StringPart}
    {cs : List Char} (h : chars f ps = .ok cs) : f = none := by
  fun_induction chars f ps generalizing cs with
  | case2 hf => exact hf
  | case1 | case4 | case5 | case7 | case9 | case11 => cases h
  | case3 | case6 | case8 | case10 | case12 =>
    rename_i ih
    obtain ⟨cs, hcs, -⟩ := bind_eq_ok_iff.1 h
    exact ih hcs

/-- A string that has a text is complete. -/
theorem Json.StringLiteral.fault_eq_of_text {l : StringLiteral} {s : String}
    (h : l.text = .ok s) : l.fault = none := by
  obtain ⟨cs, hcs, -⟩ := map_eq_ok_iff.1 h
  exact fault_eq_of_chars hcs

namespace Decoder

/-! ## Scalars -/

theorem isStrict_single : single.IsStrict := by
  intro j a h
  cases j with
  | number l =>
    obtain ⟨n, hn, -⟩ := bind_eq_ok_iff.1 h
    exact NumberLiteral.fault_eq_of_value (orFault_eq_ok_iff.1 hn)
  | _ => cases h

theorem isStrict_text : text.IsStrict := by
  intro j a h
  cases j with
  | string l => exact StringLiteral.fault_eq_of_text (orFault_eq_ok_iff.1 h)
  | _ => cases h

theorem isStrict_bool : bool.IsStrict := by
  intro j a h
  unfold bool at h
  split at h
  · rfl
  · rfl
  · cases h

theorem isStrict_unit : unit.IsStrict := by
  intro j a h
  unfold unit at h
  split at h
  · rfl
  · cases h

theorem isStrict_option {d : Decoder α} (hd : d.IsStrict) : (option d).IsStrict := by
  intro j a h
  unfold option at h
  split at h
  · rfl
  · cases h
  · obtain ⟨b, hb, -⟩ := map_eq_ok_iff.1 h
    exact hd hb

/-! ## Arrays -/

theorem closing_of_orFault {f : Option Fault} (h : orFault (closing f) = .ok ()) : f = none :=
  closing_eq_ok_iff.1 (orFault_eq_ok_iff.1 h)

theorem endItems_eq_ok {f : Option Fault} {vs : List Json} (h : endItems f vs = .ok ()) :
    f = none ∧ vs = [] := by
  cases vs with
  | nil => exact ⟨closing_of_orFault h, rfl⟩
  | cons v vs => cases h

/-- The next item of an array is the first of those that are left. -/
theorem item_eq_ok {d : Decoder α} {expected : String} {i : ℕ} {f : Option Fault}
    {vs : List Json} {r : α × List Json} (h : item d expected i f vs = .ok r) :
    ∃ v, vs = v :: r.2 ∧ d v = .ok r.1 := by
  cases vs with
  | nil =>
    obtain ⟨_, -, h⟩ := bind_eq_ok_iff.1 h
    cases h
  | cons v vs =>
    obtain ⟨a, ha, h⟩ := bind_eq_ok_iff.1 h
    cases h
    exact ⟨v, rfl, ha⟩

theorem isStrict_triple {d : Decoder α} (hd : d.IsStrict) (make : α → α → α → β) :
    (triple d make).IsStrict := by
  intro j r h
  cases j with
  | array vs f =>
    obtain ⟨⟨a, vs₁⟩, ha, h⟩ := bind_eq_ok_iff.1 h
    obtain ⟨⟨b, vs₂⟩, hb, h⟩ := bind_eq_ok_iff.1 h
    obtain ⟨⟨c, vs₃⟩, hc, h⟩ := bind_eq_ok_iff.1 h
    obtain ⟨_, hend, -⟩ := bind_eq_ok_iff.1 h
    obtain ⟨v, rfl, ha'⟩ := item_eq_ok ha
    obtain ⟨v', rfl, hb'⟩ := item_eq_ok hb
    obtain ⟨v'', rfl, hc'⟩ := item_eq_ok hc
    obtain ⟨rfl, rfl⟩ := endItems_eq_ok hend
    exact ⟨rfl, hd ha', hd hb', hd hc', trivial⟩
  | _ => cases h

theorem isStrict_quadruple {d : Decoder α} (hd : d.IsStrict) (make : α → α → α → α → β) :
    (quadruple d make).IsStrict := by
  intro j r h
  cases j with
  | array vs f =>
    obtain ⟨⟨a, vs₁⟩, ha, h⟩ := bind_eq_ok_iff.1 h
    obtain ⟨⟨b, vs₂⟩, hb, h⟩ := bind_eq_ok_iff.1 h
    obtain ⟨⟨c, vs₃⟩, hc, h⟩ := bind_eq_ok_iff.1 h
    obtain ⟨⟨e, vs₄⟩, he, h⟩ := bind_eq_ok_iff.1 h
    obtain ⟨_, hend, -⟩ := bind_eq_ok_iff.1 h
    obtain ⟨v, rfl, ha'⟩ := item_eq_ok ha
    obtain ⟨v', rfl, hb'⟩ := item_eq_ok hb
    obtain ⟨v'', rfl, hc'⟩ := item_eq_ok hc
    obtain ⟨w, rfl, he'⟩ := item_eq_ok he
    obtain ⟨rfl, rfl⟩ := endItems_eq_ok hend
    exact ⟨rfl, hd ha', hd hb', hd hc', hd he', trivial⟩
  | _ => cases h

theorem itemsWhole_of_mapM {d : Decoder α} (hd : d.IsStrict) {vs : List Json} {as : List α}
    (h : vs.mapM d = .ok as) : ItemsWhole vs := by
  induction vs generalizing as with
  | nil => trivial
  | cons v vs ih =>
    rw [List.mapM_cons] at h
    obtain ⟨a, ha, h⟩ := bind_eq_ok_iff.1 h
    obtain ⟨as, has, -⟩ := bind_eq_ok_iff.1 h
    exact ⟨hd ha, ih has⟩

theorem isStrict_list {d : Decoder α} (hd : d.IsStrict) : (list d).IsStrict := by
  intro j as h
  cases j with
  | array vs f =>
    obtain ⟨bs, hbs, h⟩ := bind_eq_ok_iff.1 h
    obtain ⟨_, hend, -⟩ := bind_eq_ok_iff.1 h
    exact ⟨closing_of_orFault hend, itemsWhole_of_mapM hd hbs⟩
  | _ => cases h

/-! ## Objects -/

/-- If every member that is read is whole, then all members of an object are. -/
theorem membersWhole_of_foldlM {step : σ → StringLiteral × Json → Except DecodeError σ}
    (hstep : ∀ {s m s'}, step s m = .ok s' → m.1.fault = none ∧ m.2.IsWhole)
    {ms : List (StringLiteral × Json)} {s s' : σ} (h : ms.foldlM step s = .ok s') :
    MembersWhole ms := by
  induction ms generalizing s with
  | nil => trivial
  | cons m ms ih =>
    rw [List.foldlM_cons] at h
    obtain ⟨s₁, hm, hms⟩ := bind_eq_ok_iff.1 h
    obtain ⟨hk, hv⟩ := hstep hm
    exact ⟨hk, hv, ih hms⟩

theorem isStrict_entries {d : Decoder α} (hd : d.IsStrict) (put : σ → String → α → σ)
    (start : σ) : (entries d put start).IsStrict := by
  intro j s h
  cases j with
  | object ms f =>
    obtain ⟨s', hs', h⟩ := bind_eq_ok_iff.1 h
    obtain ⟨_, hend, -⟩ := bind_eq_ok_iff.1 h
    refine ⟨closing_of_orFault hend, membersWhole_of_foldlM (fun {s m s'} hm => ?_) hs'⟩
    obtain ⟨key, hkey, hm⟩ := bind_eq_ok_iff.1 hm
    obtain ⟨a, ha, -⟩ := bind_eq_ok_iff.1 hm
    exact ⟨StringLiteral.fault_eq_of_text (orFault_eq_ok_iff.1 hkey), hd ha⟩
  | _ => cases h

/-- An alternative is whole if its name or its body is. -/
theorem isStrict_tagged {names : List String}
    {body : String → Option Json → Except DecodeError α}
    (hbody : ∀ name v a, body name (some v) = .ok a → v.IsWhole) :
    (tagged names body).IsStrict := by
  intro j a h
  unfold tagged at h
  split at h
  · cases h
  · obtain ⟨name, hname, -⟩ := bind_eq_ok_iff.1 h
    exact StringLiteral.fault_eq_of_text (orFault_eq_ok_iff.1 hname)
  · obtain ⟨name, hname, h⟩ := bind_eq_ok_iff.1 h
    split at h
    · obtain ⟨b, hb, h⟩ := bind_eq_ok_iff.1 h
      obtain ⟨_, hend, -⟩ := bind_eq_ok_iff.1 h
      obtain ⟨hf, hrest⟩ := endItems_eq_ok hend
      rw [List.map_eq_nil_iff] at hrest
      subst hf hrest
      have hkey := StringLiteral.fault_eq_of_text (orFault_eq_ok_iff.1 hname)
      exact ⟨rfl, hkey, hbody _ _ _ hb, trivial⟩
    · cases h
  · cases h

end Decoder

/-! ## Structures -/

/-- A field that sees every fault of its value. -/
def Field.IsStrict (f : Field σ) : Prop := ∀ ⦃j s s'⦄, f.read j s = .ok s' → j.IsWhole

theorem Field.isStrict_slot {d : Decoder α} (hd : d.IsStrict) (name : String) (required : Bool)
    (get : σ → Option α) (set : σ → α → σ) : (slot name required d get set).IsStrict := by
  intro j s s' h
  obtain ⟨a, ha, -⟩ := bind_eq_ok_iff.1 h
  exact hd ha

namespace Record

variable {r : Record σ α}

/-- A structure is read from an object member by member. -/
theorem decode_object_eq_ok_iff {ms : List (StringLiteral × Json)} {f : Option Fault} {a : α} :
    r.decode (.object ms f) = .ok a ↔
      f = none ∧ ∃ s, ms.foldlM r.readMember r.start = .ok s ∧ r.finish s = .ok a := by
  rw [decode, bind_eq_ok_iff]
  constructor
  · rintro ⟨s, hs, h⟩
    obtain ⟨_, hend, h⟩ := bind_eq_ok_iff.1 h
    exact ⟨Decoder.closing_of_orFault hend, s, hs, h⟩
  · rintro ⟨rfl, s, hs, h⟩
    exact ⟨s, hs, h⟩

/-- One member is read into its field or skipped. -/
theorem readMember_eq_ok {s s' : σ} {m : StringLiteral × Json} (h : r.readMember s m = .ok s') :
    ∃ name, m.1.text = .ok name ∧
      ((∀ f ∈ r.fields, f.name ≠ name) ∧ m.2.IsWhole ∧ s' = s ∨
        ∃ f ∈ r.fields, f.name = name ∧ f.isSet s = false ∧ f.read m.2 s = .ok s') := by
  obtain ⟨name, hname, h⟩ := bind_eq_ok_iff.1 h
  refine ⟨name, orFault_eq_ok_iff.1 hname, ?_⟩
  split at h
  · rename_i hnone
    obtain ⟨_, hskip, h⟩ := bind_eq_ok_iff.1 h
    cases h
    refine .inl ⟨by simpa using hnone, ?_, rfl⟩
    exact (skip_eq_ok_iff m.2).1 (orFault_eq_ok_iff.1 hskip)
  · rename_i field hfield
    have hmem := List.mem_of_find?_eq_some hfield
    have heq : field.name = name := by simpa using List.find?_some hfield
    split at h
    · cases h
    · rename_i hset
      exact .inr ⟨field, hmem, heq, by simpa using hset, h⟩

/-- Reading the items of an array looks at every item. -/
theorem itemsWhole_of_readItems {f : Option Fault} {fields : List (Field σ)}
    (hfields : ∀ field ∈ fields, field.IsStrict) {i : ℕ} {vs : List Json} {s s' : σ}
    (h : r.readItems f fields i vs s = .ok s') : f = none ∧ ItemsWhole vs := by
  induction fields generalizing i vs s with
  | nil =>
    obtain ⟨_, hend, -⟩ := bind_eq_ok_iff.1 h
    obtain ⟨rfl, rfl⟩ := Decoder.endItems_eq_ok hend
    exact ⟨rfl, trivial⟩
  | cons field fields ih =>
    obtain ⟨hfield, hrest⟩ := List.forall_mem_cons.1 hfields
    cases vs with
    | nil =>
      obtain ⟨_, hend, -⟩ := bind_eq_ok_iff.1 h
      exact ⟨Decoder.closing_of_orFault hend, trivial⟩
    | cons v vs =>
      obtain ⟨s₁, hv, hvs⟩ := bind_eq_ok_iff.1 h
      obtain ⟨hf, hvs⟩ := ih hrest hvs
      exact ⟨hf, hfield hv, hvs⟩

/-- A structure whose fields see every fault sees every fault. -/
theorem isStrict_decode (hfields : ∀ f ∈ r.fields, f.IsStrict) : Decoder.IsStrict r.decode := by
  intro j a h
  cases j with
  | object ms f =>
    obtain ⟨hf, s, hs, -⟩ := decode_object_eq_ok_iff.1 h
    refine ⟨hf, Decoder.membersWhole_of_foldlM (fun {s m s'} hm => ?_) hs⟩
    obtain ⟨name, hname, hvalue⟩ := readMember_eq_ok hm
    refine ⟨StringLiteral.fault_eq_of_text hname, ?_⟩
    rcases hvalue with ⟨-, hv, -⟩ | ⟨field, hfield, -, -, hv⟩
    · exact hv
    · exact hfields field hfield hv
  | array vs f =>
    obtain ⟨s, hs, -⟩ := bind_eq_ok_iff.1 h
    exact itemsWhole_of_readItems hfields hs
  | _ => cases h

end Record
end ModelPreview
