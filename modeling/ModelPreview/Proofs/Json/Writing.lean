import Mathlib
import ModelPreview.Json.Decode
import ModelPreview.Proofs.Json.Recognition

/-!
# The texts of a tree

A tree without faults is written as its tokens, with any white space between them.  Reading such a
text gives the tree back, and every text that is read as a tree without faults was written from it.
So each text is written from one tree at most, and what a text is decoded to depends on the tree
alone.

Main definitions:

- `Json.IsWhole`: trees without faults.
- `Json.toTokens`: the tokens of a tree.
- `Json.Written`: the texts of a tree.
- `Decoder.IsStrict`: decoders that only accept trees without faults.

Main results:

- `Json.skip_eq_ok_iff`: the trees that may stand where nobody looks.
- `Json.readValue_toTokens` and `Json.eq_of_readValue`: tokens are arranged in the tree they come
  from.
- `Json.written_iff` and `Json.written_iff_ofTokens`: a text is written from a tree exactly if it
  is read as the tree.
- `Json.decodeText_of_written` and `Json.exists_written_of_decodeText`: decoding a text is decoding
  the tree it is written from.
-/

namespace ModelPreview

/-! ## Computations that succeed -/

section Success

variable {ε ε' α β : Type} {x : Except ε α}

theorem bind_eq_ok_iff {f : α → Except ε β} {b : β} :
    x >>= f = .ok b ↔ ∃ a, x = .ok a ∧ f a = .ok b := by
  cases x with
  | error e => exact ⟨nofun, fun ⟨_, h, _⟩ => nomatch h⟩
  | ok a => exact ⟨fun h => ⟨a, rfl, h⟩, fun ⟨_, rfl, h⟩ => h⟩

theorem seq_eq_ok_iff {x : Except ε Unit} {y : Except ε β} {b : β} :
    (x >>= fun _ => y) = .ok b ↔ x = .ok () ∧ y = .ok b := by
  rw [bind_eq_ok_iff]
  exact ⟨fun ⟨_, h⟩ => h, fun h => ⟨(), h⟩⟩

theorem map_eq_ok_iff {f : α → β} {b : β} : f <$> x = .ok b ↔ ∃ a, x = .ok a ∧ f a = b := by
  cases x with
  | error e => exact ⟨nofun, fun ⟨_, h, _⟩ => nomatch h⟩
  | ok a => exact ⟨fun h => ⟨a, rfl, Except.ok.inj h⟩, fun ⟨_, rfl, h⟩ => congrArg Except.ok h⟩

theorem mapError_eq_ok_iff {f : ε → ε'} {a : α} : x.mapError f = .ok a ↔ x = .ok a := by
  cases x with
  | error e => exact ⟨nofun, nofun⟩
  | ok b =>
    exact ⟨fun h => congrArg Except.ok (Except.ok.inj h),
      fun h => congrArg Except.ok (Except.ok.inj h)⟩

end Success

namespace Json

theorem closing_eq_ok_iff {f : Option Fault} : closing f = .ok () ↔ f = none := by
  cases f with
  | none => exact ⟨fun _ => rfl, fun _ => rfl⟩
  | some f => exact ⟨nofun, nofun⟩

/-! ## Trees without faults -/

mutual

/-- A tree in which nothing is missing and nothing breaks off. -/
def IsWhole : Json → Prop
  | .absent | .malformed => False
  | .word _ f => f = none
  | .number l => l.fault = none
  | .string l => l.fault = none
  | .array items f => f = none ∧ ItemsWhole items
  | .object members f => f = none ∧ MembersWhole members

/-- Nothing is missing in the items of an array. -/
def ItemsWhole : List Json → Prop
  | [] => True
  | v :: vs => IsWhole v ∧ ItemsWhole vs

/-- Nothing is missing in the members of an object. -/
def MembersWhole : List (StringLiteral × Json) → Prop
  | [] => True
  | (k, v) :: ms => k.fault = none ∧ IsWhole v ∧ MembersWhole ms

end

theorem NumberLiteral.skip_eq_ok_iff {l : NumberLiteral} : l.skip = .ok () ↔ l.fault = none := by
  unfold skip
  cases l.fault with
  | none => exact ⟨fun _ => rfl, fun _ => rfl⟩
  | some f => exact ⟨nofun, nofun⟩

theorem StringLiteral.skip_eq_ok_iff {l : StringLiteral} : l.skip = .ok () ↔ l.fault = none := by
  unfold skip
  cases l.fault with
  | none => exact ⟨fun _ => rfl, fun _ => rfl⟩
  | some f => exact ⟨nofun, nofun⟩

mutual

/-- Exactly the trees without faults may stand where nobody looks. -/
theorem skip_eq_ok_iff (j : Json) : j.skip = .ok () ↔ j.IsWhole := by
  match j with
  | .absent | .malformed => exact ⟨nofun, nofun⟩
  | .word w f => exact closing_eq_ok_iff
  | .number l => exact NumberLiteral.skip_eq_ok_iff
  | .string l => exact StringLiteral.skip_eq_ok_iff
  | .array vs f =>
    simp [skip, IsWhole, seq_eq_ok_iff, closing_eq_ok_iff, skipItems_eq_ok_iff vs, and_comm]
  | .object ms f =>
    simp [skip, IsWhole, seq_eq_ok_iff, closing_eq_ok_iff, skipMembers_eq_ok_iff ms, and_comm]

theorem skipItems_eq_ok_iff (vs : List Json) : skipItems vs = .ok () ↔ ItemsWhole vs := by
  match vs with
  | [] => exact ⟨fun _ => trivial, fun _ => rfl⟩
  | v :: vs =>
    simp [skipItems, ItemsWhole, seq_eq_ok_iff, skip_eq_ok_iff v, skipItems_eq_ok_iff vs]

theorem skipMembers_eq_ok_iff (ms : List (StringLiteral × Json)) :
    skipMembers ms = .ok () ↔ MembersWhole ms := by
  match ms with
  | [] => exact ⟨fun _ => trivial, fun _ => rfl⟩
  | (k, v) :: ms =>
    simp [skipMembers, MembersWhole, seq_eq_ok_iff, StringLiteral.skip_eq_ok_iff,
      skip_eq_ok_iff v, skipMembers_eq_ok_iff ms]

end

/-! ## The tokens of a tree -/

mutual

/-- The tokens of a tree. -/
def toTokens : Json → List Token
  | .absent | .malformed => []
  | .word w f => [.word w f]
  | .number l => [.number l]
  | .string l => [.string l]
  | .array [] _ => [.openBracket, .closeBracket]
  | .array (v :: vs) _ => .openBracket :: toTokens v ++ itemTokens vs
  | .object [] _ => [.openBrace, .closeBrace]
  | .object ((k, v) :: ms) _ => .openBrace :: .string k :: .colon :: toTokens v ++ memberTokens ms

/-- The tokens of the items after the first, and the end of the array. -/
def itemTokens : List Json → List Token
  | [] => [.closeBracket]
  | v :: vs => .comma :: toTokens v ++ itemTokens vs

/-- The tokens of the members after the first, and the end of the object. -/
def memberTokens : List (StringLiteral × Json) → List Token
  | [] => [.closeBrace]
  | (k, v) :: ms => .comma :: .string k :: .colon :: toTokens v ++ memberTokens ms

end

mutual

/-- No token of a whole tree breaks off. -/
theorem isWhole_of_mem_toTokens (j : Json) (hj : j.IsWhole) : ∀ t ∈ j.toTokens, t.IsWhole := by
  match j, hj with
  | .word w f, hj | .number l, hj | .string l, hj =>
    simpa [toTokens, Token.IsWhole, IsWhole] using hj
  | .array [] f, _ | .object [] f, _ => simp [toTokens, Token.IsWhole]
  | .array (v :: vs) f, hj =>
    have hv := isWhole_of_mem_toTokens v hj.2.1
    have hvs := isWhole_of_mem_itemTokens vs hj.2.2
    simpa [toTokens, or_imp, forall_and] using ⟨trivial, hv, hvs⟩
  | .object ((k, v) :: ms) f, hj =>
    obtain ⟨hk, hv, hms⟩ := hj.2
    have hv := isWhole_of_mem_toTokens v hv
    have hms := isWhole_of_mem_memberTokens ms hms
    simpa [toTokens, or_imp, forall_and] using ⟨trivial, hk, trivial, hv, hms⟩

theorem isWhole_of_mem_itemTokens (vs : List Json) (hvs : ItemsWhole vs) :
    ∀ t ∈ itemTokens vs, t.IsWhole := by
  match vs, hvs with
  | [], _ => simp [itemTokens, Token.IsWhole]
  | v :: vs, hvs =>
    have hv := isWhole_of_mem_toTokens v hvs.1
    have hvs := isWhole_of_mem_itemTokens vs hvs.2
    simpa [itemTokens, or_imp, forall_and] using ⟨trivial, hv, hvs⟩

theorem isWhole_of_mem_memberTokens (ms : List (StringLiteral × Json)) (hms : MembersWhole ms) :
    ∀ t ∈ memberTokens ms, t.IsWhole := by
  match ms, hms with
  | [], _ => simp [memberTokens, Token.IsWhole]
  | (k, v) :: ms, hms =>
    obtain ⟨hk, hv, hms⟩ := hms
    have hv := isWhole_of_mem_toTokens v hv
    have hms := isWhole_of_mem_memberTokens ms hms
    simpa [memberTokens, or_imp, forall_and] using ⟨trivial, hk, trivial, hv, hms⟩

end

/-! ## From tokens to trees -/

/-- The tokens of a tree do not start with a closing bracket. -/
theorem exists_toTokens_eq_cons {j : Json} (hj : j.IsWhole) :
    ∃ t ts, j.toTokens = t :: ts ∧ t ≠ .closeBracket := by
  cases j with
  | absent | malformed => exact hj.elim
  | word w f => exact ⟨.word w f, [], rfl, by simp⟩
  | number l => exact ⟨.number l, [], rfl, by simp⟩
  | string l => exact ⟨.string l, [], rfl, by simp⟩
  | array vs f =>
    cases vs with
    | nil => exact ⟨.openBracket, _, rfl, by simp⟩
    | cons v vs => exact ⟨.openBracket, _, by rw [toTokens, List.cons_append], by simp⟩
  | object ms f =>
    cases ms with
    | nil => exact ⟨.openBrace, _, rfl, by simp⟩
    | cons m ms =>
      obtain ⟨k, v⟩ := m
      exact ⟨.openBrace, _, by rw [toTokens, List.cons_append], by simp⟩

/-- An opened array goes on with its items. -/
theorem readValue_openBracket {n : ℕ} {t : Token} {ts : List Token} (ht : t ≠ .closeBracket) :
    readValue (n + 1) (.openBracket :: t :: ts)
      = (.array (readItems n (t :: ts)).1 (readItems n (t :: ts)).2.1,
        (readItems n (t :: ts)).2.2) := by
  rw [readValue]
  · exact nofun
  · intro ts' h
    cases h
    exact ht rfl

/-- An opened object goes on with its members. -/
theorem readValue_openBrace {n : ℕ} {ts : List Token} (hts : ∀ ts', ts ≠ .closeBrace :: ts') :
    readValue (n + 1) (.openBrace :: ts)
      = (.object (readMembers n ts).1 (readMembers n ts).2.1, (readMembers n ts).2.2) := by
  rw [readValue]
  exact hts

mutual

/-- The tokens of a tree are read as the tree. -/
theorem readValue_toTokens (j : Json) (hj : j.IsWhole) {n : ℕ}
    (hn : 2 * j.toTokens.length ≤ n + 1) (rest : List Token) :
    readValue n (j.toTokens ++ rest) = (j, rest) := by
  match j, hj with
  | .word w f, _ | .number l, _ | .string l, _ =>
    obtain ⟨n, rfl⟩ : ∃ k, n = k + 1 := ⟨n - 1, by simp [toTokens] at hn; omega⟩
    rfl
  | .array [] f, hj | .object [] f, hj =>
    obtain ⟨n, rfl⟩ : ∃ k, n = k + 1 := ⟨n - 1, by simp [toTokens] at hn; omega⟩
    obtain rfl : f = none := hj.1
    rfl
  | .array (v :: vs) f, hj =>
    obtain rfl : f = none := hj.1
    simp only [toTokens, List.cons_append, List.length_cons, List.length_append] at hn ⊢
    obtain ⟨n, rfl⟩ : ∃ k, n = k + 1 := ⟨n - 1, by omega⟩
    have hitems := readItems_itemTokens v vs hj.2.1 hj.2.2 (n := n) (by omega) rest
    obtain ⟨t, ts, htokens, ht⟩ := exists_toTokens_eq_cons hj.2.1
    rw [htokens, List.cons_append, List.cons_append] at hitems ⊢
    rw [readValue_openBracket ht, hitems]
  | .object ((k, v) :: ms) f, hj =>
    obtain rfl : f = none := hj.1
    obtain ⟨-, hv, hms⟩ := hj.2
    simp only [toTokens, List.cons_append, List.length_cons, List.length_append] at hn ⊢
    obtain ⟨n, rfl⟩ : ∃ k, n = k + 1 := ⟨n - 1, by omega⟩
    have hmembers := readMembers_memberTokens k v ms hv hms (n := n) (by omega) rest
    rw [readValue_openBrace (by simp), hmembers]
termination_by n

/-- The tokens of the items of an array. -/
theorem readItems_itemTokens (v : Json) (vs : List Json) (hv : v.IsWhole) (hvs : ItemsWhole vs)
    {n : ℕ} (hn : 2 * (v.toTokens.length + (itemTokens vs).length) ≤ n + 1) (rest : List Token) :
    readItems n (v.toTokens ++ itemTokens vs ++ rest) = (v :: vs, none, rest) := by
  match vs, hvs with
  | [], _ =>
    simp only [itemTokens, List.length_singleton] at hn
    obtain ⟨n, rfl⟩ : ∃ k, n = k + 1 := ⟨n - 1, by omega⟩
    have hvalue := readValue_toTokens v hv (n := n) (by omega) (.closeBracket :: rest)
    rw [readItems, itemTokens, List.append_assoc, List.singleton_append, hvalue]
  | v' :: vs, hvs =>
    simp only [itemTokens, List.cons_append, List.length_cons, List.length_append] at hn
    obtain ⟨n, rfl⟩ : ∃ k, n = k + 1 := ⟨n - 1, by omega⟩
    have hvalue := readValue_toTokens v hv (n := n) (by omega)
      (.comma :: (v'.toTokens ++ itemTokens vs ++ rest))
    have hitems := readItems_itemTokens v' vs hvs.1 hvs.2 (n := n) (by omega) rest
    rw [readItems, itemTokens, List.append_assoc, List.cons_append, List.cons_append, hvalue]
    simp only [hitems]
termination_by n

/-- The tokens of the members of an object. -/
theorem readMembers_memberTokens (k : StringLiteral) (v : Json) (ms : List (StringLiteral × Json))
    (hv : v.IsWhole) (hms : MembersWhole ms) {n : ℕ}
    (hn : 2 * (v.toTokens.length + (memberTokens ms).length) ≤ n + 1) (rest : List Token) :
    readMembers n (.string k :: .colon :: (v.toTokens ++ memberTokens ms ++ rest))
      = ((k, v) :: ms, none, rest) := by
  match ms, hms with
  | [], _ =>
    simp only [memberTokens, List.length_singleton] at hn
    obtain ⟨n, rfl⟩ : ∃ k, n = k + 1 := ⟨n - 1, by omega⟩
    have hvalue := readValue_toTokens v hv (n := n) (by omega) (.closeBrace :: rest)
    rw [readMembers, memberTokens, List.append_assoc, List.singleton_append, hvalue]
  | (k', v') :: ms, hms =>
    obtain ⟨-, hv', hms⟩ := hms
    simp only [memberTokens, List.cons_append, List.length_cons, List.length_append] at hn
    obtain ⟨n, rfl⟩ : ∃ k, n = k + 1 := ⟨n - 1, by omega⟩
    have hvalue := readValue_toTokens v hv (n := n) (by omega)
      (.comma :: .string k' :: .colon :: (v'.toTokens ++ memberTokens ms ++ rest))
    have hmembers := readMembers_memberTokens k' v' ms hv' hms (n := n) (by omega) rest
    rw [readMembers, memberTokens, List.append_assoc]
    simp only [List.cons_append, hvalue, hmembers]
termination_by n

end

/-- Members start with a key and a colon. -/
theorem exists_of_readMembers {n : ℕ} {ts rest : List Token} {ms : List (StringLiteral × Json)}
    (h : readMembers (n + 1) ts = (ms, none, rest)) :
    ∃ k ts', ts = .string k :: .colon :: ts' := by
  rw [readMembers.eq_def] at h
  split at h
  · rename_i heq
    cases heq
  · exact ⟨_, _, rfl⟩
  · cases h
  · cases h

mutual

/-- What is read as a whole tree are the tokens of the tree. -/
theorem eq_of_readValue {n : ℕ} {ts rest : List Token} {j : Json}
    (h : readValue n ts = (j, rest)) (hj : j.IsWhole) : ts = j.toTokens ++ rest := by
  match n, ts with
  | 0, ts =>
    cases h
    exact hj.elim
  | n + 1, [] =>
    cases h
    exact hj.elim
  | n + 1, .word w f :: ts | n + 1, .number l :: ts | n + 1, .string l :: ts =>
    cases h
    rfl
  | n + 1, .closeBrace :: ts | n + 1, .closeBracket :: ts | n + 1, .colon :: ts
  | n + 1, .comma :: ts | n + 1, .stray :: ts =>
    cases h
    exact hj.elim
  | n + 1, .openBracket :: [] =>
    cases h
    exact absurd hj.1 (by simp)
  | n + 1, .openBracket :: t :: ts =>
    by_cases ht : t = .closeBracket
    · subst ht
      cases h
      rfl
    · rw [readValue_openBracket ht] at h
      generalize hitems : readItems n (t :: ts) = read at h
      obtain ⟨vs, f, ts'⟩ := read
      cases h
      obtain rfl : f = none := hj.1
      obtain ⟨v, vs, rfl, hts⟩ := eq_of_readItems hitems hj.2
      rw [toTokens, hts]
      rfl
  | n + 1, .openBrace :: ts =>
    by_cases hts : ∃ ts', ts = .closeBrace :: ts'
    · obtain ⟨ts', rfl⟩ := hts
      cases h
      rfl
    · rw [readValue_openBrace (fun ts' hts' => hts ⟨ts', hts'⟩)] at h
      generalize hmembers : readMembers n ts = read at h
      obtain ⟨ms, f, ts'⟩ := read
      cases h
      obtain rfl : f = none := hj.1
      obtain ⟨k, v, ms, rfl, hts⟩ := eq_of_readMembers hmembers hj.2
      rw [toTokens, hts]
      rfl
termination_by n

/-- What is read as the items of an array. -/
theorem eq_of_readItems {n : ℕ} {ts rest : List Token} {vs : List Json}
    (h : readItems n ts = (vs, none, rest)) (hvs : ItemsWhole vs) :
    ∃ v vs', vs = v :: vs' ∧ ts = v.toTokens ++ itemTokens vs' ++ rest := by
  match n with
  | 0 => cases h
  | n + 1 =>
    rw [readItems] at h
    generalize hvalue : readValue n ts = read at h
    obtain ⟨v, after⟩ := read
    simp only at h
    split at h
    · rename_i more
      generalize hrest : readItems n more = read at h
      obtain ⟨vs', f, after⟩ := read
      cases h
      obtain ⟨v', vs, rfl, rfl⟩ := eq_of_readItems hrest hvs.2
      refine ⟨v, v' :: vs, rfl, ?_⟩
      rw [eq_of_readValue hvalue hvs.1, itemTokens]
      simp
    · cases h
      refine ⟨v, [], rfl, ?_⟩
      rw [eq_of_readValue hvalue hvs.1, itemTokens]
      simp
    · cases h
termination_by n

/-- What is read as the members of an object. -/
theorem eq_of_readMembers {n : ℕ} {ts rest : List Token} {ms : List (StringLiteral × Json)}
    (h : readMembers n ts = (ms, none, rest)) (hms : MembersWhole ms) :
    ∃ k v ms', ms = (k, v) :: ms' ∧
      ts = .string k :: .colon :: (v.toTokens ++ memberTokens ms' ++ rest) := by
  match n with
  | 0 => cases h
  | n + 1 =>
    obtain ⟨k, ts, rfl⟩ := exists_of_readMembers h
    rw [readMembers] at h
    generalize hvalue : readValue n ts = read at h
    obtain ⟨v, after⟩ := read
    simp only at h
    split at h
    · rename_i more
      generalize hrest : readMembers n more = read at h
      obtain ⟨ms', f, after⟩ := read
      cases h
      obtain ⟨-, hv, hms⟩ := hms
      obtain ⟨k', v', ms, rfl, rfl⟩ := eq_of_readMembers hrest hms
      refine ⟨k, v, (k', v') :: ms, rfl, ?_⟩
      rw [eq_of_readValue hvalue hv, memberTokens]
      simp
    · cases h
      refine ⟨k, v, [], rfl, ?_⟩
      rw [eq_of_readValue hvalue hms.2.1, memberTokens]
      simp
    · cases h
termination_by n

end

end Json

/-- A decoder that sees every fault of a tree: what it accepts is whole. -/
def Decoder.IsStrict (d : Decoder α) : Prop := ∀ ⦃j a⦄, d j = .ok a → j.IsWhole

namespace Json

/-! ## From texts to trees -/

/-- A text that is written from a tree: the tokens of the tree, with white space between them. -/
structure Written (j : Json) (text : String) : Prop where
  isWhole : j.IsWhole
  spaced : Spaced j.toTokens text.toList

/-- A text is written from a whole tree exactly if it has the tokens of the tree. -/
theorem written_iff {j : Json} {text : String} :
    j.Written text ↔ j.IsWhole ∧ tokens text.toList = j.toTokens := by
  constructor
  · rintro ⟨hj, htext⟩
    exact ⟨hj, tokens_eq_of_spaced htext⟩
  · rintro ⟨hj, htokens⟩
    refine ⟨hj, ?_⟩
    rw [← htokens]
    refine spaced_of_tokens ?_
    rw [htokens]
    exact isWhole_of_mem_toTokens j hj

/-- A text is written from a whole tree exactly if it is read as the tree. -/
theorem written_iff_ofTokens {j : Json} {text : String} :
    j.Written text ↔ j.IsWhole ∧ ofTokens (tokens text.toList) = (j, []) := by
  rw [written_iff, and_congr_right_iff]
  intro hj
  constructor
  · intro htokens
    have hread := readValue_toTokens j hj (n := 2 * j.toTokens.length + 1) (by omega) []
    rw [List.append_nil] at hread
    rw [htokens, ofTokens, hread]
  · intro hread
    have htokens := eq_of_readValue hread hj
    rw [List.append_nil] at htokens
    exact htokens

/-- Decoding a text is decoding the tree it is written from. -/
theorem decodeText_of_written {j : Json} {text : String} (h : j.Written text) (d : Decoder α) :
    decodeText d text = d j := by
  rw [decodeText, (written_iff_ofTokens.1 h).2]
  cases hd : d j <;> simp [hd]

/-- The texts a strict decoder accepts are written from trees. -/
theorem exists_written_of_decodeText {d : Decoder α} (hd : d.IsStrict) {text : String} {a : α}
    (h : decodeText d text = .ok a) : ∃ j, j.Written text ∧ d j = .ok a := by
  unfold decodeText at h
  generalize hread : ofTokens (tokens text.toList) = read at h
  obtain ⟨j, rest⟩ := read
  change (d j >>= fun b => if rest.isEmpty then pure b else .error .malformed) = .ok a at h
  obtain ⟨b, hb, hend⟩ := bind_eq_ok_iff.1 h
  split at hend
  · rename_i hrest
    obtain rfl : rest = [] := List.isEmpty_iff.1 hrest
    cases hend
    exact ⟨j, written_iff_ofTokens.2 ⟨hd hb, hread⟩, hb⟩
  · cases hend

end Json
end ModelPreview
