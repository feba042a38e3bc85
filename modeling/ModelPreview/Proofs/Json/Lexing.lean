import Mathlib
import ModelPreview.Proofs.Json.Writing

/-!
# Written trees

A tree that is written in full follows the grammar, so it is read back.  Control characters come
back as numeric escapes.

Main definitions:

- `Json.WellFormed`: trees that are written in full.
- `StringLiteral.asRead` and `Json.asRead`: what a written literal or tree comes back as.

Main results:

- `NumberLiteral.spelled_render` and `StringLiteral.spelled_render`: a literal is written by the
  grammar.
- `Json.written_render`: a tree is written by the grammar.
-/

namespace ModelPreview
namespace Json

/-- A string that is given by its characters. -/
def StringLiteral.IsPlain (l : StringLiteral) : Prop :=
  l.fault = none ∧ ∀ part ∈ l.parts, ∃ c, part = .char c

/-- A piece of a string after writing and reading: some control characters are written as code
units. -/
def StringPart.asRead : StringPart → StringPart
  | .char c =>
    if c.toNat < 0x20 ∧ c ∉ ['\x08', '\x0c', '\n', '\r', '\t'] then .unit c.toNat else .char c
  | .unit u => .unit u

/-- A string after writing and reading. -/
def StringLiteral.asRead (l : StringLiteral) : StringLiteral :=
  ⟨l.parts.map StringPart.asRead, none⟩

/-! ## Literals -/

/-- A number is written by the grammar. -/
theorem NumberLiteral.spelled_render {l : NumberLiteral} (hl : l.WellFormed) :
    l.Spelled l.render := by
  refine ⟨hl, ?_⟩
  cases hexponent : l.exponent with
  | none => exact ⟨[], rfl, by simp only [render, hexponent]; rfl⟩
  | some e =>
    obtain ⟨minus, ds⟩ := e
    have hne : ds ≠ [] := by
      rintro rfl
      exact hl.exponent_ne_nil minus hexponent
    refine ⟨'e' :: ([if minus then '-' else '+'] ++ renderDigits ds), ?_, ?_⟩
    · exact ⟨hne, 'e', by simp, _, by cases minus <;> simp [exponentSigns], rfl⟩
    · simp only [render, hexponent]
      rfl

theorem hexDigit?_hexChar (n : ℕ) : Lexer.hexDigit? (hexChar n) = some (n % 16) := by
  have h : ∀ k < 16, Lexer.hexDigit? (hexChar k) = some k := by decide
  have hmod : hexChar n = hexChar (n % 16) := by simp [hexChar]
  rw [hmod, h _ (Nat.mod_lt n (by norm_num))]

/-- A code unit is written as a numeric escape. -/
theorem spelled_unit {n : ℕ} (hn : n < 0x10000) :
    (StringPart.unit n).Spelled ('\\' :: 'u' :: hexChars 4 n) := by
  have hvalue : n = hexValue [n / 16 / 16 / 16 % 16, n / 16 / 16 % 16, n / 16 % 16, n % 16] := by
    simp only [hexValue, List.foldl_cons, List.foldl_nil]
    omega
  rw [hvalue]
  refine .numeric rfl ?_
  rw [← hvalue]
  simp [hexChars, hexDigit?_hexChar]

/-- A character within a string is written by the grammar. -/
theorem spelled_escapeChar (c : Char) : (StringPart.char c).asRead.Spelled (escapeChar c) := by
  unfold escapeChar
  split
  case h_8 hquote hbackslash hback hfeed hnewline hreturn htab =>
    split
    · rename_i hcontrol
      rw [StringPart.asRead, if_pos]
      · exact spelled_unit (by omega)
      · simp only [List.mem_cons, List.not_mem_nil, or_false, not_or]
        exact ⟨hcontrol, hback, hfeed, hnewline, hreturn, htab⟩
    · rename_i hplain
      rw [StringPart.asRead, if_neg (fun h => hplain h.1)]
      exact .plain hquote hbackslash (by omega)
  all_goals exact .short rfl

/-- The pieces of a string are written by the grammar. -/
theorem partsSpelled_render {ps : List StringPart} (hps : ∀ part ∈ ps, ∃ c, part = .char c) :
    PartsSpelled (ps.map StringPart.asRead) (ps.flatMap StringPart.render) := by
  induction ps with
  | nil => exact .nil
  | cons part ps ih =>
    obtain ⟨⟨c, rfl⟩, hrest⟩ := List.forall_mem_cons.1 hps
    exact .cons (spelled_escapeChar c) (ih hrest)

/-- A string is written by the grammar. -/
theorem StringLiteral.spelled_render {l : StringLiteral} (hl : l.IsPlain) :
    l.asRead.Spelled l.render := ⟨rfl, _, partsSpelled_render hl.2, rfl⟩

/-! ## Trees -/

mutual

/-- A tree that is written in full: nothing is missing and every literal is well formed. -/
def WellFormed : Json → Prop
  | .absent | .malformed => False
  | .word _ f => f = none
  | .number l => l.WellFormed
  | .string l => l.IsPlain
  | .array items f => f = none ∧ WellFormedItems items
  | .object members f => f = none ∧ WellFormedMembers members

/-- All items of an array are written in full. -/
def WellFormedItems : List Json → Prop
  | [] => True
  | v :: vs => WellFormed v ∧ WellFormedItems vs

/-- All members of an object are written in full. -/
def WellFormedMembers : List (StringLiteral × Json) → Prop
  | [] => True
  | (k, v) :: ms => k.IsPlain ∧ WellFormed v ∧ WellFormedMembers ms

end

mutual

/-- A tree after writing and reading. -/
def asRead : Json → Json
  | .absent => .absent
  | .malformed => .malformed
  | .word w f => .word w f
  | .number l => .number l
  | .string l => .string l.asRead
  | .array items f => .array (itemsAsRead items) f
  | .object members f => .object (membersAsRead members) f

/-- The items of an array after writing and reading. -/
def itemsAsRead : List Json → List Json
  | [] => []
  | v :: vs => asRead v :: itemsAsRead vs

/-- The members of an object after writing and reading. -/
def membersAsRead : List (StringLiteral × Json) → List (StringLiteral × Json)
  | [] => []
  | (k, v) :: ms => (k.asRead, asRead v) :: membersAsRead ms

end

mutual

/-- A tree that was written in full comes back without faults. -/
theorem isWhole_asRead (j : Json) (hj : j.WellFormed) : j.asRead.IsWhole := by
  match j, hj with
  | .word w f, hj => exact hj
  | .number l, hj => exact hj.fault_eq
  | .string l, _ => rfl
  | .array vs f, hj => exact ⟨hj.1, itemsWhole_itemsAsRead vs hj.2⟩
  | .object ms f, hj => exact ⟨hj.1, membersWhole_membersAsRead ms hj.2⟩

theorem itemsWhole_itemsAsRead (vs : List Json) (hvs : WellFormedItems vs) :
    ItemsWhole (itemsAsRead vs) := by
  match vs, hvs with
  | [], _ => trivial
  | v :: vs, hvs => exact ⟨isWhole_asRead v hvs.1, itemsWhole_itemsAsRead vs hvs.2⟩

theorem membersWhole_membersAsRead (ms : List (StringLiteral × Json)) (hms : WellFormedMembers ms) :
    MembersWhole (membersAsRead ms) := by
  match ms, hms with
  | [], _ => trivial
  | (k, v) :: ms, hms =>
    exact ⟨rfl, isWhole_asRead v hms.2.1, membersWhole_membersAsRead ms hms.2.2⟩

end

/-- A key and the colon behind it. -/
theorem spaced_key {k : StringLiteral} (hk : k.IsPlain) {ts : List Token} {rest : List Char}
    (hrest : Spaced ts rest) :
    Spaced (.string k.asRead :: .colon :: ts) (k.render ++ ':' :: rest) :=
  .cons_tight (t := .string k.asRead) (StringLiteral.spelled_render hk) (by simp)
    (.cons_char rfl (by simp) hrest)

mutual

/-- A written tree follows the grammar, whatever comes after it. -/
theorem spaced_renderChars (j : Json) (hj : j.WellFormed) {ts : List Token} {rest : List Char}
    (hrest : Spaced ts rest) (hgap : ∀ c ∈ rest.head?, digit? c = none) :
    Spaced (j.asRead.toTokens ++ ts) (j.renderChars ++ rest) := by
  match j, hj with
  | .word w f, hj =>
    obtain rfl : f = none := hj
    exact .cons_tight (t := .word w none) ⟨rfl, rfl⟩ (by simp) hrest
  | .number l, hj =>
    exact .cons_direct (t := .number l) (NumberLiteral.spelled_render hj) (fun _ _ => hgap) hrest
  | .string l, hj =>
    exact .cons_tight (t := .string l.asRead) (StringLiteral.spelled_render hj) (by simp) hrest
  | .array [] f, _ =>
    exact .cons_char rfl (by simp) (.cons_char rfl (by simp) hrest)
  | .array (v :: vs) f, hj =>
    obtain ⟨hitems, hhead⟩ := spaced_renderItems vs hj.2.2 hrest
    have hfirst := spaced_renderChars v hj.2.1 hitems hhead
    simp only [asRead, itemsAsRead, toTokens, renderChars, List.cons_append, List.append_assoc]
    exact .cons_char rfl (by simp) hfirst
  | .object [] f, _ =>
    exact .cons_char rfl (by simp)
      (.cons_char rfl (by simp) hrest)
  | .object ((k, v) :: ms) f, hj =>
    obtain ⟨hk, hv, hms⟩ := hj.2
    obtain ⟨hmembers, hhead⟩ := spaced_renderMembers ms hms hrest
    have hfirst := spaced_key hk (spaced_renderChars v hv hmembers hhead)
    simp only [asRead, membersAsRead, toTokens, renderChars, List.cons_append, List.append_assoc]
    exact .cons_char rfl (by simp) hfirst

/-- The items after the first. -/
theorem spaced_renderItems (vs : List Json) (hvs : WellFormedItems vs) {ts : List Token}
    {rest : List Char} (hrest : Spaced ts rest) :
    Spaced (itemTokens (itemsAsRead vs) ++ ts) (renderItems vs ++ rest) ∧
      ∀ c ∈ (renderItems vs ++ rest).head?, digit? c = none := by
  match vs, hvs with
  | [], _ => exact ⟨.cons_char rfl (by simp) hrest, by simp [renderItems]; rfl⟩
  | v :: vs, hvs =>
    obtain ⟨hitems, hhead⟩ := spaced_renderItems vs hvs.2 hrest
    have hfirst := spaced_renderChars v hvs.1 hitems hhead
    simp only [itemsAsRead, itemTokens, renderItems, List.cons_append, List.append_assoc]
    exact ⟨.cons_char rfl (by simp) hfirst, by simp; rfl⟩

/-- The members after the first. -/
theorem spaced_renderMembers (ms : List (StringLiteral × Json)) (hms : WellFormedMembers ms)
    {ts : List Token} {rest : List Char} (hrest : Spaced ts rest) :
    Spaced (memberTokens (membersAsRead ms) ++ ts) (renderMembers ms ++ rest) ∧
      ∀ c ∈ (renderMembers ms ++ rest).head?, digit? c = none := by
  match ms, hms with
  | [], _ => exact ⟨.cons_char rfl (by simp) hrest, by simp [renderMembers]; rfl⟩
  | (k, v) :: ms, hms =>
    obtain ⟨hk, hv, hms⟩ := hms
    obtain ⟨hmembers, hhead⟩ := spaced_renderMembers ms hms hrest
    have hfirst := spaced_key hk (spaced_renderChars v hv hmembers hhead)
    simp only [membersAsRead, memberTokens, renderMembers, List.cons_append, List.append_assoc]
    exact ⟨.cons_char rfl (by simp) hfirst, by simp; rfl⟩

end

/-- A tree is written by the grammar, as the tree it comes back as. -/
theorem written_render {j : Json} (hj : j.WellFormed) : j.asRead.Written j.render := by
  have h := spaced_renderChars j hj .empty (by simp)
  rw [List.append_nil, List.append_nil] at h
  refine ⟨isWhole_asRead j hj, ?_⟩
  rw [render, String.toList_ofList]
  exact h

end Json
end ModelPreview
