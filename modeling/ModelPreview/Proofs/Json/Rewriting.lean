import Mathlib
import ModelPreview.Proofs.Json.Strictness

/-!
# Structures written differently

An object is read member by member into a draft, so nothing but the order in which slots are filled
depends on the order of the members.  If no field looks at the slot of another, then the members may
stand in any order, among any others; a field that takes `null` for nothing may also be written so.

Main definitions:

- `Record.Rewrite`: the other ways to write a structure, one change at a time.
- `Json.RewriteItem`: one item of an array written differently.
- `Json.Rewritten`: a text that says the same as another.
- `Field.Independent` and `Record.Orderly`: fields that do not look at each other's slots.
- `Decoder.Respects`: decoders that do not depend on how their tree is written.

Main results:

- `Record.Orderly.decode_perm` and `Record.Orderly.decode_insert`: the order of the members, and
  members that change nothing.
- `Record.Flexible.respects_decode`: a structure is read as the same value however it is written.
- `Decoder.Respects.decodeText`: the same for texts.
-/

namespace ModelPreview

open Json

variable {α β σ : Type}

/-! ## Rewriting -/

/-- The other ways to write a structure, one change at a time.  `nullable` are the fields that may
be `null`, and `inner` says how the value of a field may be written differently. -/
inductive Record.Rewrite (r : Record σ α) (nullable : List String)
    (inner : String → Json → Json → Prop) : Json → Json → Prop
  /-- The members stand in another order. -/
  | permute {ms ms' : List (StringLiteral × Json)} (h : ms.Perm ms') :
    Rewrite r nullable inner (.object ms none) (.object ms' none)
  /-- There is another member, whose key is a text that names no field. -/
  | addUnknown {before behind : List (StringLiteral × Json)} {key : StringLiteral} {name : String}
    {v : Json} (hkey : key.text = .ok name) (hunknown : ∀ f ∈ r.fields, f.name ≠ name)
    (hv : v.IsWhole) :
    Rewrite r nullable inner (.object (before ++ behind) none)
      (.object (before ++ (key, v) :: behind) none)
  /-- A field that is absent is given as `null`. -/
  | addNull {before behind : List (StringLiteral × Json)} {key : StringLiteral} {name : String}
    (hkey : key.text = .ok name) (hnull : name ∈ nullable)
    (habsent : ∀ m ∈ before ++ behind, m.1.text ≠ .ok name) :
    Rewrite r nullable inner (.object (before ++ behind) none)
      (.object (before ++ (key, .null) :: behind) none)
  /-- The value of a field is written differently. -/
  | inMember {before behind : List (StringLiteral × Json)} {key : StringLiteral} {f : Field σ}
    {v v' : Json} (hkey : key.text = .ok f.name) (hfield : f ∈ r.fields)
    (hv : inner f.name v v') :
    Rewrite r nullable inner (.object (before ++ (key, v) :: behind) none)
      (.object (before ++ (key, v') :: behind) none)
  /-- The value of a field is written differently in an array of the fields. -/
  | inItem {before behind : List Json} {f : Field σ} {v v' : Json}
    (hfield : r.fields[before.length]? = some f) (hv : inner f.name v v') :
    Rewrite r nullable inner (.array (before ++ v :: behind) none)
      (.array (before ++ v' :: behind) none)

/-- One item of an array is written differently. -/
inductive Json.RewriteItem (inner : Json → Json → Prop) : Json → Json → Prop
  | inItem {before behind : List Json} {v v' : Json} (hv : inner v v') :
    RewriteItem inner (.array (before ++ v :: behind) none) (.array (before ++ v' :: behind) none)

/-- A text that says what another says: the tree of the one is rewritten, in any number of changes,
and written anew with any white space. -/
def Json.Rewritten (rel : Json → Json → Prop) (text text' : String) : Prop :=
  ∃ j j' : Json, j.Written text ∧ Relation.ReflTransGen rel j j' ∧ j'.Written text'

/-- A decoder that does not depend on how its tree is written. -/
def Decoder.Respects (d : Decoder α) (rel : Json → Json → Prop) : Prop :=
  ∀ ⦃j j' a⦄, rel j j' → d j = .ok a → d j' = .ok a

/-- A field that does not depend on how its value is written. -/
def Field.Respects (f : Field σ) (rel : Json → Json → Prop) : Prop :=
  ∀ ⦃v v' s s'⦄, rel v v' → f.read v s = .ok s' → f.read v' s = .ok s'

/-! ## Lists -/

/-- If any two steps may be swapped, then the order of the steps does not matter. -/
theorem foldlM_perm {ε γ : Type} (step : σ → γ → Except ε σ)
    (hswap : ∀ {s x y s₁ s₂}, step s x = .ok s₁ → step s₁ y = .ok s₂ →
      ∃ s₁', step s y = .ok s₁' ∧ step s₁' x = .ok s₂)
    {xs ys : List γ} (h : xs.Perm ys) {s s' : σ} (hxs : xs.foldlM step s = .ok s') :
    ys.foldlM step s = .ok s' := by
  induction h generalizing s with
  | nil => exact hxs
  | cons x _ ih =>
    rw [List.foldlM_cons] at hxs ⊢
    obtain ⟨s₁, hx, hxs⟩ := bind_eq_ok_iff.1 hxs
    exact bind_eq_ok_iff.2 ⟨s₁, hx, ih hxs⟩
  | swap x y _ =>
    rw [List.foldlM_cons] at hxs ⊢
    obtain ⟨s₁, hy, hxs⟩ := bind_eq_ok_iff.1 hxs
    rw [List.foldlM_cons] at hxs
    obtain ⟨s₂, hx, hxs⟩ := bind_eq_ok_iff.1 hxs
    obtain ⟨s₁', hx', hy'⟩ := hswap hy hx
    refine bind_eq_ok_iff.2 ⟨s₁', hx', ?_⟩
    rw [List.foldlM_cons]
    exact bind_eq_ok_iff.2 ⟨s₂, hy', hxs⟩
  | trans _ _ ih₁ ih₂ => exact ih₂ (ih₁ hxs)

/-- One step may be replaced by another that does the same there. -/
theorem foldlM_replace {ε γ : Type} {step : σ → γ → Except ε σ} {x y : γ}
    (hstep : ∀ {s s'}, step s x = .ok s' → step s y = .ok s') {before behind : List γ} {s s' : σ}
    (h : (before ++ x :: behind).foldlM step s = .ok s') :
    (before ++ y :: behind).foldlM step s = .ok s' := by
  rw [List.foldlM_append] at h ⊢
  obtain ⟨s₁, hbefore, h⟩ := bind_eq_ok_iff.1 h
  rw [List.foldlM_cons] at h
  obtain ⟨s₂, hx, hbehind⟩ := bind_eq_ok_iff.1 h
  refine bind_eq_ok_iff.2 ⟨s₁, hbefore, ?_⟩
  rw [List.foldlM_cons]
  exact bind_eq_ok_iff.2 ⟨s₂, hstep hx, hbehind⟩

theorem mapM_replace {ε γ : Type} {f : γ → Except ε α} {x y : γ}
    (hf : ∀ {a}, f x = .ok a → f y = .ok a) {before behind : List γ} {as : List α}
    (h : (before ++ x :: behind).mapM f = .ok as) : (before ++ y :: behind).mapM f = .ok as := by
  rw [List.mapM_append, List.mapM_cons] at h ⊢
  obtain ⟨bs, hbefore, h⟩ := bind_eq_ok_iff.1 h
  obtain ⟨cs, hcs, h⟩ := bind_eq_ok_iff.1 h
  obtain ⟨a, hx, hcs⟩ := bind_eq_ok_iff.1 hcs
  exact bind_eq_ok_iff.2 ⟨bs, hbefore, bind_eq_ok_iff.2 ⟨cs, bind_eq_ok_iff.2 ⟨a, hf hx, hcs⟩, h⟩⟩

/-! ## Decoders -/

namespace Decoder

variable {d : Decoder α} {rel : Json → Json → Prop}

/-- A decoder that respects single changes respects many. -/
theorem Respects.reflTransGen (hd : d.Respects rel) : d.Respects (Relation.ReflTransGen rel) := by
  intro j j' a hrel hj
  induction hrel with
  | refl => exact hj
  | tail _ hlast ih => exact hd hlast ih

/-- A text that is decoded is written from a tree, and what it says may be written in any other
way. -/
theorem Respects.decodeText (hd : d.Respects rel) (hstrict : d.IsStrict) {text : String} {a : α}
    (h : Json.decodeText d text = .ok a) :
    (∃ j : Json, j.Written text) ∧
      ∀ text', Rewritten rel text text' → Json.decodeText d text' = .ok a := by
  obtain ⟨j, hj, -⟩ := exists_written_of_decodeText hstrict h
  refine ⟨⟨j, hj⟩, ?_⟩
  rintro text' ⟨k, k', hk, hrel, hk'⟩
  rw [decodeText_of_written hk] at h
  rw [decodeText_of_written hk']
  exact hd.reflTransGen hrel h

/-- Nothing is written differently. -/
theorem respects_false : d.Respects fun _ _ => False := fun _ _ _ h => h.elim

theorem respects_list (hd : d.Respects rel) : (list d).Respects (RewriteItem rel) := by
  rintro _ _ as ⟨hv⟩ h
  obtain ⟨bs, hbs, h⟩ := bind_eq_ok_iff.1 h
  exact bind_eq_ok_iff.2 ⟨bs, mapM_replace (hd hv) hbs, h⟩

/-- Values that are no words are optional values that are there. -/
theorem option_eq_map {j : Json} (hj : ∀ w f, j ≠ .word w f) (d : Decoder α) :
    option d j = some <$> d j := by
  unfold option
  split
  · exact absurd rfl (hj _ _)
  · exact absurd rfl (hj _ _)
  · rfl

theorem respects_option (hd : d.Respects rel)
    (hrel : ∀ j j', rel j j' → ∀ w f, j ≠ .word w f ∧ j' ≠ .word w f) :
    (option d).Respects rel := by
  intro j j' o hjj' h
  have hne := hrel j j' hjj'
  rw [option_eq_map (fun w f => (hne w f).1)] at h
  rw [option_eq_map (fun w f => (hne w f).2)]
  obtain ⟨a, ha, rfl⟩ := map_eq_ok_iff.1 h
  exact map_eq_ok_iff.2 ⟨a, hd hjj' ha, rfl⟩

end Decoder

/-! ## Fields -/

namespace Field

/-- A field whose slot is filled by reading it. -/
def Fills (f : Field σ) : Prop := ∀ ⦃v s s'⦄, f.read v s = .ok s' → f.isSet s' = true

/-- Two fields that may be read in either order, and the first does not fill the slot of the
second. -/
structure Commutes (f g : Field σ) : Prop where
  isSet_eq {v : Json} {s s' : σ} (h : f.read v s = .ok s') : g.isSet s' = g.isSet s
  swap {v w : Json} {s s₁ s₂ : σ} (hf : f.read v s = .ok s₁) (hg : g.read w s₁ = .ok s₂) :
    ∃ s₁', g.read w s = .ok s₁' ∧ f.read v s₁' = .ok s₂

/-- Two fields that do not look at each other's slots. -/
def Independent (f g : Field σ) : Prop := f.Commutes g ∧ g.Commutes f

variable {d : Decoder α} {e : Decoder β} {name name' : String} {required required' : Bool}
  {get : σ → Option α} {set : σ → α → σ} {get' : σ → Option β} {set' : σ → β → σ}

@[simp]
theorem slot_name : (slot name required d get set).name = name := rfl

theorem slot_read_eq_ok_iff {v : Json} {s s' : σ} :
    (slot name required d get set).read v s = .ok s' ↔ ∃ a, d v = .ok a ∧ set s a = s' := by
  constructor
  · intro h
    obtain ⟨a, ha, h⟩ := bind_eq_ok_iff.1 h
    exact ⟨a, ha, Except.ok.inj h⟩
  · rintro ⟨a, ha, rfl⟩
    exact bind_eq_ok_iff.2 ⟨a, ha, rfl⟩

/-- Reading into a slot fills it. -/
theorem fills_slot (hget : ∀ s a, get (set s a) = some a) :
    (slot name required d get set).Fills := by
  intro v s s' h
  obtain ⟨a, -, rfl⟩ := slot_read_eq_ok_iff.1 h
  change (get (set s a)).isSome = true
  rw [hget]
  rfl

theorem commutes_slot (hget : ∀ s a, get' (set s a) = get' s)
    (hset : ∀ s a b, set' (set s a) b = set (set' s b) a) :
    (slot name required d get set).Commutes (slot name' required' e get' set') where
  isSet_eq {v s s'} h := by
    obtain ⟨a, -, rfl⟩ := slot_read_eq_ok_iff.1 h
    change (get' (set s a)).isSome = (get' s).isSome
    rw [hget]
  swap {v w s s₁ s₂} hf hg := by
    obtain ⟨a, ha, rfl⟩ := slot_read_eq_ok_iff.1 hf
    obtain ⟨b, hb, rfl⟩ := slot_read_eq_ok_iff.1 hg
    exact ⟨set' s b, slot_read_eq_ok_iff.2 ⟨b, hb, rfl⟩,
      slot_read_eq_ok_iff.2 ⟨a, ha, (hset s a b).symm⟩⟩

/-- Different slots of a draft are independent. -/
theorem independent_slot (hget : ∀ s a, get' (set s a) = get' s)
    (hget' : ∀ s b, get (set' s b) = get s)
    (hset : ∀ s a b, set' (set s a) b = set (set' s b) a) :
    (slot name required d get set).Independent (slot name' required' e get' set') :=
  ⟨commutes_slot hget hset, commutes_slot hget' fun s b a => (hset s a b).symm⟩

theorem respects_slot {rel : Json → Json → Prop} (hd : d.Respects rel) :
    (slot name required d get set).Respects rel := by
  intro v v' s s' hrel h
  obtain ⟨a, ha, rfl⟩ := slot_read_eq_ok_iff.1 h
  exact slot_read_eq_ok_iff.2 ⟨a, hd hrel ha, rfl⟩

end Field

/-! ## Structures -/

namespace Record

/-- A structure whose fields have slots of their own. -/
structure Orderly (r : Record σ α) : Prop where
  /-- No two fields have one name. -/
  nodup : (r.fields.map (·.name)).Nodup
  /-- Every field sees every fault of its value. -/
  isStrict : ∀ f ∈ r.fields, f.IsStrict
  /-- Reading a field fills its slot. -/
  fills : ∀ f ∈ r.fields, f.Fills
  /-- No slot is filled at first. -/
  isSet_start : ∀ f ∈ r.fields, f.isSet r.start = false
  /-- The slots are independent. -/
  independent : r.fields.Pairwise Field.Independent

variable {r : Record σ α} {nullable : List String} {inner : String → Json → Json → Prop}

theorem Orderly.commutes (hr : r.Orderly) {f g : Field σ} (hf : f ∈ r.fields) (hg : g ∈ r.fields)
    (hne : f.name ≠ g.name) : f.Commutes g := by
  have hsymm : Std.Symm (Field.Independent (σ := σ)) := ⟨fun _ _ h => ⟨h.2, h.1⟩⟩
  exact (hr.independent.forall hf hg fun h => hne (congrArg Field.name h)).1

theorem Orderly.eq_of_name_eq (hr : r.Orderly) {f g : Field σ} (hf : f ∈ r.fields)
    (hg : g ∈ r.fields) (hname : f.name = g.name) : f = g :=
  List.inj_on_of_nodup_map hr.nodup hf hg hname

/-- One member is read into its field or skipped, and nothing else can happen. -/
theorem Orderly.readMember_eq_ok_iff (hr : r.Orderly) {s s' : σ} {m : StringLiteral × Json} :
    r.readMember s m = .ok s' ↔ ∃ name, m.1.text = .ok name ∧
      ((∀ f ∈ r.fields, f.name ≠ name) ∧ m.2.IsWhole ∧ s' = s ∨
        ∃ f ∈ r.fields, f.name = name ∧ f.isSet s = false ∧ f.read m.2 s = .ok s') := by
  refine ⟨readMember_eq_ok, ?_⟩
  rintro ⟨name, hname, hvalue⟩
  refine bind_eq_ok_iff.2 ⟨name, orFault_eq_ok_iff.2 hname, ?_⟩
  rcases hvalue with ⟨hunknown, hv, rfl⟩ | ⟨f, hf, rfl, hset, hread⟩
  · have hfind : r.fields.find? (·.name = name) = none := by simpa using hunknown
    rw [hfind]
    exact bind_eq_ok_iff.2 ⟨(), orFault_eq_ok_iff.2 ((skip_eq_ok_iff m.2).2 hv), rfl⟩
  · cases hfind : r.fields.find? (·.name = f.name) with
    | none => exact absurd (List.find?_eq_none.1 hfind f hf) (by simp)
    | some g =>
      have hg : g.name = f.name := by simpa using List.find?_some hfind
      obtain rfl := hr.eq_of_name_eq (List.mem_of_find?_eq_some hfind) hf hg
      simp only [hset]
      exact hread

/-- Two members may be read in either order. -/
theorem Orderly.readMember_swap (hr : r.Orderly) {s s₁ s₂ : σ} {m m' : StringLiteral × Json}
    (h : r.readMember s m = .ok s₁) (h' : r.readMember s₁ m' = .ok s₂) :
    ∃ s₁', r.readMember s m' = .ok s₁' ∧ r.readMember s₁' m = .ok s₂ := by
  simp only [hr.readMember_eq_ok_iff] at h h' ⊢
  obtain ⟨name, hname, hvalue⟩ := h
  obtain ⟨name', hname', hvalue'⟩ := h'
  rcases hvalue with ⟨hunknown, hv, rfl⟩ | ⟨f, hf, rfl, hset, hread⟩
  · exact ⟨s₂, ⟨name', hname', hvalue'⟩, name, hname, .inl ⟨hunknown, hv, rfl⟩⟩
  · rcases hvalue' with ⟨hunknown, hv, rfl⟩ | ⟨g, hg, rfl, hset', hread'⟩
    · exact ⟨s, ⟨name', hname', .inl ⟨hunknown, hv, rfl⟩⟩, f.name, hname,
        .inr ⟨f, hf, rfl, hset, hread⟩⟩
    · by_cases heq : f.name = g.name
      · -- a field that has been read is not read again
        obtain rfl := hr.eq_of_name_eq hf hg heq
        rw [hr.fills f hf hread] at hset'
        cases hset'
      · have hfg := hr.commutes hf hg heq
        have hgf := hr.commutes hg hf fun h => heq h.symm
        obtain ⟨s₁', hfirst, hsecond⟩ := hfg.swap hread hread'
        refine ⟨s₁', ⟨g.name, hname', .inr ⟨g, hg, rfl, ?_, hfirst⟩⟩, f.name, hname,
          .inr ⟨f, hf, rfl, ?_, hsecond⟩⟩
        · rw [← hfg.isSet_eq hread]
          exact hset'
        · rw [hgf.isSet_eq hfirst]
          exact hset

/-- A field that no member names stays as it is. -/
theorem Orderly.isSet_eq_of_absent (hr : r.Orderly) {f : Field σ} (hf : f ∈ r.fields)
    {ms : List (StringLiteral × Json)} (habsent : ∀ m ∈ ms, m.1.text ≠ .ok f.name) {s s' : σ}
    (h : ms.foldlM r.readMember s = .ok s') : f.isSet s' = f.isSet s := by
  induction ms generalizing s with
  | nil =>
    cases h
    rfl
  | cons m ms ih =>
    obtain ⟨hm, hms⟩ := List.forall_mem_cons.1 habsent
    rw [List.foldlM_cons] at h
    obtain ⟨s₁, hread, h⟩ := bind_eq_ok_iff.1 h
    rw [ih hms h]
    obtain ⟨name, hname, hvalue⟩ := readMember_eq_ok hread
    rcases hvalue with ⟨-, -, rfl⟩ | ⟨g, hg, rfl, -, hread⟩
    · rfl
    · have hne : g.name ≠ f.name := fun heq => hm (heq ▸ hname)
      exact (hr.commutes hg hf hne).isSet_eq hread

/-- A field for which `null` says as much as leaving it out. -/
def TakesNull (r : Record σ α) (f : Field σ) : Prop :=
  ∀ s, f.isSet s = false → ∃ s', f.read .null s = .ok s' ∧ r.finish s' = r.finish s

/-- An optional slot takes `null` for nothing if the structure does not tell an empty slot from
one that holds nothing. -/
theorem takesNull_slot {d : Decoder β} {name : String} {required : Bool}
    {get : σ → Option (Option β)} {set : σ → Option β → σ}
    (hfinish : ∀ s, get s = none → r.finish (set s none) = r.finish s) :
    r.TakesNull (.slot name required (.option d) get set) := by
  intro s hset
  refine ⟨set s none, rfl, hfinish s ?_⟩
  exact Option.not_isSome_iff_eq_none.1 (Bool.eq_false_iff.1 hset)

/-- One item of an array of the fields may be replaced. -/
theorem readItems_replace {fields : List (Field σ)} {f : Field σ} {v v' : Json}
    (hv : ∀ s s', f.read v s = .ok s' → f.read v' s = .ok s') {before behind : List Json}
    (hfield : fields[before.length]? = some f) {fault : Option Fault} {i : ℕ} {s s' : σ}
    (h : r.readItems fault fields i (before ++ v :: behind) s = .ok s') :
    r.readItems fault fields i (before ++ v' :: behind) s = .ok s' := by
  induction before generalizing fields i s with
  | nil =>
    cases fields with
    | nil => cases hfield
    | cons g fields =>
      obtain rfl : g = f := by simpa using hfield
      obtain ⟨s₁, hread, h⟩ := bind_eq_ok_iff.1 h
      exact bind_eq_ok_iff.2 ⟨s₁, hv _ _ hread, h⟩
  | cons w before ih =>
    cases fields with
    | nil => cases hfield
    | cons g fields =>
      obtain ⟨s₁, hread, h⟩ := bind_eq_ok_iff.1 h
      exact bind_eq_ok_iff.2 ⟨s₁, hread, ih (by simpa using hfield) h⟩

/-- What is known about the fields of a structure that is read however it is written. -/
structure Flexible (r : Record σ α) (nullable : List String) (inner : String → Json → Json → Prop) :
    Prop extends Orderly r where
  /-- The values of the fields are read however they are written. -/
  respects : ∀ f ∈ r.fields, f.Respects (inner f.name)
  /-- A field that may be `null` takes it for nothing. -/
  takesNull : ∀ f ∈ r.fields, f.name ∈ nullable → r.TakesNull f

/-- The members of an object may stand in any order. -/
theorem Orderly.decode_perm (hr : r.Orderly) {ms ms' : List (StringLiteral × Json)}
    (h : ms.Perm ms') {a : α} (hdecode : r.decode (.object ms none) = .ok a) :
    r.decode (.object ms' none) = .ok a := by
  obtain ⟨-, s, hs, hfinish⟩ := decode_object_eq_ok_iff.1 hdecode
  exact decode_object_eq_ok_iff.2
    ⟨rfl, s, foldlM_perm r.readMember hr.readMember_swap h hs, hfinish⟩

/-- A member may be added if it changes nothing where it is read last. -/
theorem Orderly.decode_insert (hr : r.Orderly) {before behind : List (StringLiteral × Json)}
    {m : StringLiteral × Json}
    (hm : ∀ s, (before ++ behind).foldlM r.readMember r.start = .ok s →
      ∃ s', r.readMember s m = .ok s' ∧ r.finish s' = r.finish s)
    {a : α} (hdecode : r.decode (.object (before ++ behind) none) = .ok a) :
    r.decode (.object (before ++ m :: behind) none) = .ok a := by
  have hperm : (before ++ behind ++ [m]).Perm (before ++ m :: behind) := by
    simp [List.append_assoc, List.perm_append_left_iff]
  refine hr.decode_perm hperm ?_
  obtain ⟨-, s, hs, hfinish⟩ := decode_object_eq_ok_iff.1 hdecode
  obtain ⟨s', hlast, heq⟩ := hm s hs
  refine decode_object_eq_ok_iff.2 ⟨rfl, s', ?_, heq.trans hfinish⟩
  rw [List.foldlM_append]
  exact bind_eq_ok_iff.2 ⟨s, hs, by simpa using hlast⟩

/-- A structure is read as the same value however it is written. -/
theorem Flexible.respects_decode (hr : r.Flexible nullable inner) :
    Decoder.Respects r.decode (r.Rewrite nullable inner) := by
  intro j j' a hrel hj
  cases hrel with
  | permute h => exact hr.decode_perm h hj
  | addUnknown hkey hunknown hv =>
    refine hr.decode_insert (fun s _ => ⟨s, ?_, rfl⟩) hj
    exact hr.readMember_eq_ok_iff.2 ⟨_, hkey, .inl ⟨hunknown, hv, rfl⟩⟩
  | @addNull before behind key name hkey hnull habsent =>
    refine hr.decode_insert (fun s hs => ?_) hj
    by_cases hknown : ∃ f ∈ r.fields, f.name = name
    · obtain ⟨f, hf, rfl⟩ := hknown
      have hset : f.isSet s = false := by
        rw [hr.isSet_eq_of_absent hf habsent hs]
        exact hr.isSet_start f hf
      obtain ⟨s', hread, hfinish⟩ := hr.takesNull f hf hnull s hset
      exact ⟨s', hr.readMember_eq_ok_iff.2 ⟨_, hkey, .inr ⟨f, hf, rfl, hset, hread⟩⟩, hfinish⟩
    · have hunknown : ∀ f ∈ r.fields, f.name ≠ name := fun f hf heq => hknown ⟨f, hf, heq⟩
      exact ⟨s, hr.readMember_eq_ok_iff.2 ⟨_, hkey, .inl ⟨hunknown, rfl, rfl⟩⟩, rfl⟩
  | @inMember before behind key f v v' hkey hfield hv =>
    obtain ⟨-, s, hs, hfinish⟩ := decode_object_eq_ok_iff.1 hj
    refine decode_object_eq_ok_iff.2 ⟨rfl, s, foldlM_replace (fun {s s'} h => ?_) hs, hfinish⟩
    obtain ⟨name, hname, hvalue⟩ := readMember_eq_ok h
    obtain rfl : f.name = name := Except.ok.inj (hkey.symm.trans hname)
    rcases hvalue with ⟨hunknown, -, -⟩ | ⟨g, hg, heq, hset, hread⟩
    · exact absurd rfl (hunknown f hfield)
    · obtain rfl := hr.eq_of_name_eq hg hfield heq
      exact hr.readMember_eq_ok_iff.2
        ⟨_, hkey, .inr ⟨g, hg, rfl, hset, hr.respects g hg hv hread⟩⟩
  | @inItem before behind f v v' hfield hv =>
    obtain ⟨s, hs, hfinish⟩ := bind_eq_ok_iff.1 hj
    have hf : f ∈ r.fields := List.mem_of_getElem? hfield
    exact bind_eq_ok_iff.2
      ⟨s, readItems_replace (fun _ _ h => hr.respects f hf hv h) hfield hs, hfinish⟩

/-- A structure is no word, however it is written. -/
theorem Rewrite.ne_word {j j' : Json} (h : r.Rewrite nullable inner j j') (w : Word)
    (f : Option Fault) : j ≠ .word w f ∧ j' ≠ .word w f := by
  cases h <;> exact ⟨nofun, nofun⟩

end Record

/-! ## Built objects -/

@[simp]
theorem Json.StringLiteral.text_ofText (s : String) : (ofText s).text = .ok s := by
  have h : ∀ cs : List Char, chars none (cs.map .char) = .ok cs := by
    intro cs
    induction cs with
    | nil => rfl
    | cons c cs ih =>
      rw [List.map_cons, chars, ih]
      rfl
  rw [text, ofText, h]
  change Except.ok (String.ofList s.toList) = _
  rw [String.ofList_toList]

namespace Record.Rewrite

variable {r : Record σ α} {nullable : List String} {inner : String → Json → Json → Prop}
  {name : String} (before behind : List (String × Json))

theorem record_permute {ms ms' : List (String × Json)} (h : ms.Perm ms') :
    r.Rewrite nullable inner (.record ms) (.record ms') := permute (h.map _)

theorem record_addUnknown {v : Json} (hunknown : ∀ f ∈ r.fields, f.name ≠ name)
    (hv : v.IsWhole) :
    r.Rewrite nullable inner (.record (before ++ behind))
      (.record (before ++ (name, v) :: behind)) := by
  simp only [record, List.map_append, List.map_cons]
  exact addUnknown (StringLiteral.text_ofText name) hunknown hv

theorem record_addNull (hnull : name ∈ nullable) (habsent : ∀ m ∈ before ++ behind, m.1 ≠ name) :
    r.Rewrite nullable inner (.record (before ++ behind))
      (.record (before ++ (name, .null) :: behind)) := by
  simp only [record, List.map_append, List.map_cons]
  refine addNull (StringLiteral.text_ofText name) hnull fun m hm => ?_
  rw [← List.map_append] at hm
  obtain ⟨m', hm', rfl⟩ := List.mem_map.1 hm
  rw [StringLiteral.text_ofText]
  exact fun h => habsent m' hm' (Except.ok.inj h)

theorem record_inMember {f : Field σ} {v v' : Json} (hfield : f ∈ r.fields)
    (hv : inner f.name v v') :
    r.Rewrite nullable inner (.record (before ++ (f.name, v) :: behind))
      (.record (before ++ (f.name, v') :: behind)) := by
  simp only [record, List.map_append, List.map_cons]
  exact inMember (StringLiteral.text_ofText _) hfield hv

end Record.Rewrite
end ModelPreview
