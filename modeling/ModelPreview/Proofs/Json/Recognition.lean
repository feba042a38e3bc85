import Mathlib
import ModelPreview.Proofs.Json.Spelling

/-!
# Texts that are read without a fault

The reading machine accepts nothing but the grammar.  What it has read of a token so far is the
beginning of a written one, and every further character goes on with it, ends it, or breaks it off
for good.

Main definitions:

- `Mode.Begun`: the beginnings of tokens.
- `Lexer.Advances`: what one more character makes of a beginning.

Main results:

- `Lexer.advances`: one character within a token.
- `Lexer.readsBack`: the rest of a text.
- `spaced_of_tokens`: a text that is read without a fault follows the grammar.
-/

namespace ModelPreview
namespace Json

/-- A token that does not break off. -/
def Token.IsWhole : Token → Prop
  | .word _ f => f = none
  | .number l => l.fault = none
  | .string l => l.fault = none
  | .stray => False
  | _ => True

namespace NumberLiteral.Spelled

variable {l : NumberLiteral} {cs : List Char}

theorem of_digit (negative : Bool) (d : Digit) :
    (⟨negative, [d], none, none, none⟩ : NumberLiteral).Spelled
      (renderSign negative ++ [d.char]) where
  wellFormed := ⟨rfl, by simp, by simp, by simp, by simp⟩
  exists_eq := ⟨[], rfl, by simp [renderDigits, renderFraction]⟩

/-- One more digit before the point. -/
theorem snoc_whole (h : l.Spelled cs) (hlead : ∀ d ∈ l.whole.head?, d.val ≠ 0)
    (hfraction : l.fraction = none) (hexponent : l.exponent = none) (d : Digit) :
    ({ l with whole := l.whole ++ [d] } : NumberLiteral).Spelled (cs ++ [d.char]) := by
  obtain ⟨hl, es, hes, rfl⟩ := h
  rw [hexponent] at hes
  obtain rfl : es = [] := hes
  refine ⟨⟨hl.fault_eq, by simp, ?_, hl.fraction_ne_nil, hl.exponent_ne_nil⟩, [], ?_, ?_⟩
  · rw [List.head?_append_of_ne_nil _ hl.whole_ne_nil]
    exact fun hzero => absurd rfl (hlead 0 hzero)
  · rw [hexponent]
    rfl
  · simp [hfraction, renderFraction, renderDigits]

/-- The first digit after the point. -/
theorem first_fraction (h : l.Spelled cs) (hfraction : l.fraction = none)
    (hexponent : l.exponent = none) (d : Digit) :
    ({ l with fraction := some [d] } : NumberLiteral).Spelled (cs ++ ['.', d.char]) := by
  obtain ⟨hl, es, hes, rfl⟩ := h
  rw [hexponent] at hes
  obtain rfl : es = [] := hes
  refine ⟨⟨hl.fault_eq, hl.whole_ne_nil, hl.leading, by simp, hl.exponent_ne_nil⟩, [], ?_, ?_⟩
  · rw [hexponent]
    rfl
  · simp [hfraction, renderFraction, renderDigits]

/-- One more digit after the point. -/
theorem snoc_fraction (h : l.Spelled cs) {ds : List Digit} (hfraction : l.fraction = some ds)
    (hexponent : l.exponent = none) (d : Digit) :
    ({ l with fraction := some (ds ++ [d]) } : NumberLiteral).Spelled (cs ++ [d.char]) := by
  obtain ⟨hl, es, hes, rfl⟩ := h
  rw [hexponent] at hes
  obtain rfl : es = [] := hes
  refine ⟨⟨hl.fault_eq, hl.whole_ne_nil, hl.leading, by simp, hl.exponent_ne_nil⟩, [], ?_, ?_⟩
  · rw [hexponent]
    rfl
  · simp [hfraction, renderFraction, renderDigits]

/-- The first digit of an exponent. -/
theorem first_exponent (h : l.Spelled cs) (hexponent : l.exponent = none) {mark : Char}
    (hmark : mark ∈ ['e', 'E']) {minus : Bool} {sign : List Char}
    (hsign : sign ∈ exponentSigns minus) (d : Digit) :
    ({ l with exponent := some (minus, [d]) } : NumberLiteral).Spelled
      (cs ++ mark :: (sign ++ [d.char])) := by
  obtain ⟨hl, es, hes, rfl⟩ := h
  rw [hexponent] at hes
  obtain rfl : es = [] := hes
  refine ⟨⟨hl.fault_eq, hl.whole_ne_nil, hl.leading, hl.fraction_ne_nil, by simp⟩,
    mark :: (sign ++ [d.char]), ?_, by simp⟩
  exact ⟨by simp, mark, hmark, sign, hsign, rfl⟩

/-- One more digit of an exponent. -/
theorem snoc_exponent (h : l.Spelled cs) {minus : Bool} {ds : List Digit}
    (hexponent : l.exponent = some (minus, ds)) (d : Digit) :
    ({ l with exponent := some (minus, ds ++ [d]) } : NumberLiteral).Spelled (cs ++ [d.char]) := by
  obtain ⟨hl, es, hes, rfl⟩ := h
  rw [hexponent] at hes
  obtain ⟨hne, mark, hmark, sign, hsign, rfl⟩ := hes
  refine ⟨⟨hl.fault_eq, hl.whole_ne_nil, hl.leading, hl.fraction_ne_nil, by simp⟩,
    mark :: (sign ++ renderDigits (ds ++ [d])), ?_, ?_⟩
  · exact ⟨by simp, mark, hmark, sign, hsign, rfl⟩
  · simp [renderDigits]

end NumberLiteral.Spelled

/-- One more piece of a string. -/
theorem PartsSpelled.snoc {ps : List StringPart} {cs : List Char} (h : PartsSpelled ps cs)
    {part : StringPart} {cs' : List Char} (hpart : part.Spelled cs') :
    PartsSpelled (ps ++ [part]) (cs ++ cs') := by
  induction h with
  | nil => simpa using PartsSpelled.cons hpart .nil
  | cons hfirst _ ih =>
    rw [List.cons_append, List.append_assoc]
    exact .cons hfirst ih

/-- The characters are the beginning of a number in the given phase. -/
def NumberPhase.Begun : NumberPhase → NumberLiteral → List Char → Prop
  | .sign, l, cs => l = Lexer.blankNumber true ∧ cs = ['-']
  | .zero, l, cs => l.Spelled cs ∧ l.fraction = none ∧ l.exponent = none
  | .whole, l, cs =>
    l.Spelled cs ∧ l.fraction = none ∧ l.exponent = none ∧ ∀ d ∈ l.whole.head?, d.val ≠ 0
  | .point, l, cs =>
    ∃ cs', l.Spelled cs' ∧ cs = cs' ++ ['.'] ∧ l.fraction = none ∧ l.exponent = none
  | .fraction, l, cs => l.Spelled cs ∧ (∃ ds, l.fraction = some ds) ∧ l.exponent = none
  | .mark, l, cs =>
    ∃ cs', l.Spelled cs' ∧ l.exponent = none ∧ ∃ mark ∈ ['e', 'E'], cs = cs' ++ [mark]
  | .exponentSign, l, cs =>
    ∃ cs' minus, ({ l with exponent := none } : NumberLiteral).Spelled cs' ∧
      l.exponent = some (minus, []) ∧
      ∃ mark ∈ ['e', 'E'], ∃ sign ∈ exponentSigns minus, cs = cs' ++ mark :: sign
  | .exponent, l, cs => l.Spelled cs ∧ ∃ minus ds, l.exponent = some (minus, ds)

/-- The characters are the beginning of a string in the given phase.  A numeric escape with a wrong
digit is only found out at its end. -/
def StringPhase.Begun : StringPhase → List StringPart → List Char → Prop
  | .plain, parts, cs => ∃ body, PartsSpelled parts.reverse body ∧ cs = '"' :: body
  | .escape, parts, cs =>
    ∃ body, PartsSpelled parts.reverse body ∧ cs = '"' :: (body ++ ['\\'])
  | .hex bytes value valid, parts, cs =>
    valid = true → ∃ body digits ns, PartsSpelled parts.reverse body ∧
      digits.map Lexer.hexDigit? = ns.map some ∧ value = hexValue ns ∧
      bytes = ns.length ∧ bytes < 4 ∧ cs = '"' :: (body ++ '\\' :: 'u' :: digits)

/-- The characters are the beginning of the token the machine is in the middle of. -/
def Mode.Begun : Mode → List Char → Prop
  | .between, _ | .stopped, _ => False
  | .word w rest, cs => cs ++ rest = w.spelling ∧ rest ≠ []
  | .number phase l, cs => phase.Begun l cs
  | .string phase parts, cs => phase.Begun parts cs

theorem NumberPhase.Begun.spelled {phase : NumberPhase} {l : NumberLiteral} {cs : List Char}
    (h : phase.Begun l cs) (hphase : phase.complete = true) : l.Spelled cs := by
  cases phase with
  | sign | point | mark | exponentSign => cases hphase
  | zero | whole | fraction | exponent => exact h.1

namespace Lexer

/-- What one more character makes of a token that has been begun. -/
inductive Advances (done : List Token) (cs : List Char) (c : Char) : Lexer → Prop
  /-- The token goes on. -/
  | goesOn {m : Mode} (h : m.Begun (cs ++ [c])) : Advances done cs c ⟨m, done⟩
  /-- The token ends with the character. -/
  | ends {t : Token} (ht : t.Spelled (cs ++ [c])) (hnumber : ∀ l, t ≠ .number l) :
    Advances done cs c ⟨.between, t :: done⟩
  /-- The token breaks off. -/
  | breaks {t : Token} (ht : ¬ t.IsWhole) : Advances done cs c ⟨.stopped, t :: done⟩

theorem advances_breakNumber (x : Lexer) (cs : List Char) (l : NumberLiteral) (c : Char) :
    Advances x.done cs c (x.breakNumber l) := .breaks (by simp [Token.IsWhole])

theorem advances_breakString (x : Lexer) (cs : List Char) (parts : List StringPart) (f : Fault)
    (c : Char) : Advances x.done cs c (x.breakString parts f) := .breaks (by simp [Token.IsWhole])

/-- The first digit of a number, with or without a sign in front. -/
theorem advances_firstDigit (x : Lexer) (negative : Bool) (d : Digit) :
    Advances x.done (renderSign negative) d.char (x.firstDigit (blankNumber negative) d) := by
  have hspelled := NumberLiteral.Spelled.of_digit negative d
  unfold firstDigit
  split
  · exact .goesOn ⟨hspelled, rfl, rfl⟩
  · rename_i hzero
    exact .goesOn ⟨hspelled, rfl, rfl, fun d' hd' => Option.some.inj hd' ▸ hzero⟩

/-- A first character. -/
theorem advances_begin (done : List Token) {c : Char} (hc : isBlank c = false) :
    Advances done [] c (step ⟨.between, done⟩ c) := by
  change Advances done [] c (begin ⟨.between, done⟩ c)
  unfold begin
  rw [if_neg (by rw [hc]; exact Bool.false_ne_true)]
  split
  case h_7 => exact .goesOn ⟨[], .nil, rfl⟩
  case h_8 | h_9 | h_10 => exact .goesOn ⟨rfl, by simp⟩
  case h_11 => exact .goesOn ⟨rfl, rfl⟩
  case h_12 =>
    split
    · rename_i d hd
      obtain rfl := eq_char_of_digit? hd
      exact advances_firstDigit ⟨.between, done⟩ false d
    · exact .breaks id
  all_goals exact .ends rfl (by simp)

/-- A character within a word. -/
theorem advances_word (done : List Token) {w : Word} {rest cs : List Char}
    (h : (Mode.word w rest).Begun cs) (c : Char) :
    Advances done cs c (step ⟨.word w rest, done⟩ c) := by
  obtain ⟨hcs, hne⟩ := h
  obtain ⟨r, rest, rfl⟩ := List.exists_cons_of_ne_nil hne
  change Advances done cs c (inWord ⟨.word w (r :: rest), done⟩ w (r :: rest) c)
  by_cases hc : c = r
  · subst hc
    cases rest with
    | nil =>
      rw [inWord, if_pos rfl]
      exact .ends ⟨rfl, hcs⟩ (by simp)
    | cons r rest =>
      rw [inWord, if_pos rfl]
      · exact .goesOn ⟨by simpa using hcs, by simp⟩
      · simp
  · cases rest with
    | nil =>
      rw [inWord, if_neg hc]
      exact .breaks (by simp [Token.IsWhole])
    | cons r rest =>
      rw [inWord, if_neg hc]
      · exact .breaks (by simp [Token.IsWhole])
      · simp

/-- A character within a numeric escape.  An escape with a wrong digit breaks off at its end. -/
theorem advances_numericEscape (done : List Token) {bytes value : Nat} {valid : Bool}
    {parts : List StringPart} {cs : List Char}
    (h : (StringPhase.hex bytes value valid).Begun parts cs) (c : Char) :
    Advances done cs c (step ⟨.string (.hex bytes value valid) parts, done⟩ c) := by
  change Advances done cs c
    (inString ⟨.string (.hex bytes value valid) parts, done⟩ (.hex bytes value valid) parts c)
  have hbreak (f : Fault) :=
    advances_breakString ⟨.string (.hex bytes value valid) parts, done⟩ cs parts f c
  simp only [inString]
  cases hdigit : hexDigit? c with
  | none =>
    simp only [Bool.false_eq_true, if_false]
    split_ifs
    · exact .goesOn (by rintro ⟨⟩)
    · exact hbreak _
  | some d =>
    simp only [utf8Size_of_hexDigit? hdigit]
    cases valid with
    | false =>
      simp only [Bool.false_eq_true, if_false]
      split_ifs
      · exact .goesOn (by rintro ⟨⟩)
      · exact hbreak _
    | true =>
      obtain ⟨body, digits, ns, hbody, hdigits, rfl, rfl, hlt, rfl⟩ := h rfl
      have hvalue : 16 * hexValue ns + d = hexValue (ns ++ [d]) := by simp [hexValue]
      have hmore : (digits ++ [c]).map hexDigit? = (ns ++ [d]).map some := by
        simp [hdigits, hdigit]
      rw [if_pos rfl]
      split_ifs with hshort
      · refine .goesOn fun _ => ⟨body, digits ++ [c], ns ++ [d], hbody, hmore, hvalue, ?_, hshort,
          by simp⟩
        simp
      · refine .goesOn ⟨body ++ '\\' :: 'u' :: (digits ++ [c]), ?_, by simp⟩
        rw [List.reverse_cons, hvalue]
        exact hbody.snoc (.numeric (by simp; omega) hmore)

/-- A character within a string. -/
theorem advances_string (done : List Token) {phase : StringPhase} {parts : List StringPart}
    {cs : List Char} (h : phase.Begun parts cs) (c : Char) :
    Advances done cs c (step ⟨.string phase parts, done⟩ c) := by
  change Advances done cs c (inString ⟨.string phase parts, done⟩ phase parts c)
  have hbreak (f : Fault) := advances_breakString ⟨.string phase parts, done⟩ cs parts f c
  cases phase with
  | plain =>
    obtain ⟨body, hbody, rfl⟩ := h
    simp only [inString]
    split_ifs with hquote hbackslash hcontrol
    · subst hquote
      exact .ends ⟨rfl, body, hbody, rfl⟩ (by simp)
    · subst hbackslash
      exact .goesOn ⟨body, hbody, rfl⟩
    · exact hbreak _
    · refine .goesOn ⟨body ++ [c], ?_, rfl⟩
      rw [List.reverse_cons]
      exact hbody.snoc (.plain hquote hbackslash (by omega))
  | escape =>
    obtain ⟨body, hbody, rfl⟩ := h
    simp only [inString]
    split_ifs with hunit
    · subst hunit
      exact .goesOn fun _ => ⟨body, [], [], hbody, rfl, rfl, rfl, by norm_num, by simp⟩
    · split
      · rename_i e he
        refine .goesOn ⟨body ++ ['\\', c], ?_, by simp⟩
        rw [List.reverse_cons]
        exact hbody.snoc (.short he)
      · exact hbreak _
  | hex bytes value valid => exact advances_numericEscape done h c

/-- A digit within a number. -/
theorem advances_digit (done : List Token) {phase : NumberPhase} {l : NumberLiteral}
    {cs : List Char} (h : phase.Begun l cs) (d : Digit) :
    Advances done cs d.char (step ⟨.number phase l, done⟩ d.char) := by
  change Advances done cs d.char (inNumber ⟨.number phase l, done⟩ phase l d.char)
  have hbreak := advances_breakNumber ⟨.number phase l, done⟩ cs l d.char
  cases phase with
  | sign =>
    obtain ⟨rfl, rfl⟩ := h
    simp only [inNumber, digit?_char]
    exact advances_firstDigit ⟨_, done⟩ true d
  | zero =>
    simp only [inNumber, digit?_char]
    exact hbreak
  | whole =>
    obtain ⟨hl, hfraction, hexponent, hlead⟩ := h
    simp only [inNumber, digit?_char]
    refine .goesOn ⟨hl.snoc_whole hlead hfraction hexponent d, hfraction, hexponent, ?_⟩
    change ∀ d' ∈ (l.whole ++ [d]).head?, d'.val ≠ 0
    rw [List.head?_append_of_ne_nil _ hl.wellFormed.whole_ne_nil]
    exact hlead
  | point =>
    obtain ⟨cs, hl, rfl, hfraction, hexponent⟩ := h
    simp only [inNumber, digit?_char]
    refine .goesOn ⟨?_, ⟨_, rfl⟩, hexponent⟩
    rw [List.append_assoc]
    exact hl.first_fraction hfraction hexponent d
  | fraction =>
    obtain ⟨hl, ⟨ds, hfraction⟩, hexponent⟩ := h
    simp only [inNumber, digit?_char, hfraction]
    exact .goesOn ⟨hl.snoc_fraction hfraction hexponent d, ⟨_, rfl⟩, hexponent⟩
  | mark =>
    obtain ⟨cs, hl, hexponent, mark, hmark, rfl⟩ := h
    simp only [inNumber, digit?_char]
    refine .goesOn ⟨?_, false, _, rfl⟩
    rw [List.append_assoc]
    have hsign : [] ∈ exponentSigns false := by simp [exponentSigns]
    exact hl.first_exponent hexponent hmark hsign d
  | exponentSign =>
    obtain ⟨cs, minus, hl, hexponent, mark, hmark, sign, hsign, rfl⟩ := h
    simp only [inNumber, digit?_char, hexponent]
    refine .goesOn ⟨?_, minus, _, rfl⟩
    rw [List.append_assoc]
    exact hl.first_exponent rfl hmark hsign d
  | exponent =>
    obtain ⟨hl, minus, ds, hexponent⟩ := h
    simp only [inNumber, digit?_char, hexponent]
    exact .goesOn ⟨hl.snoc_exponent hexponent d, minus, _, rfl⟩

/-- A character behind the digits in front of the point. -/
theorem advances_afterWhole (done : List Token) {phase : NumberPhase}
    (hphase : phase = .zero ∨ phase = .whole) {l : NumberLiteral} {cs : List Char}
    (hl : l.Spelled cs) (hfraction : l.fraction = none) (hexponent : l.exponent = none) {c : Char}
    (hdigit : digit? c = none) :
    Advances done cs c (inNumber ⟨.number phase l, done⟩ phase l c) ∨
      l.Spelled cs ∧
        inNumber ⟨.number phase l, done⟩ phase l c = begin ⟨.between, .number l :: done⟩ c := by
  rcases hphase with rfl | rfl
  all_goals
    simp only [inNumber, hdigit]
    split_ifs with hpoint hmark
    · subst hpoint
      exact .inl (.goesOn ⟨cs, hl, rfl, hfraction, hexponent⟩)
    · exact .inl (.goesOn ⟨cs, hl, hexponent, c, by simpa using hmark, rfl⟩)
    · exact .inr ⟨hl, rfl⟩

/-- A character within a number that is no digit.  A number that is complete ends before it unless
it starts another part. -/
theorem advances_nonDigit (done : List Token) {phase : NumberPhase} {l : NumberLiteral}
    {cs : List Char} (h : phase.Begun l cs) {c : Char} (hdigit : digit? c = none) :
    Advances done cs c (step ⟨.number phase l, done⟩ c) ∨
      l.Spelled cs ∧ step ⟨.number phase l, done⟩ c = step ⟨.between, .number l :: done⟩ c := by
  change Advances done cs c (inNumber ⟨.number phase l, done⟩ phase l c) ∨
    _ ∧ inNumber ⟨.number phase l, done⟩ phase l c = begin ⟨.between, .number l :: done⟩ c
  have hbreak := advances_breakNumber ⟨.number phase l, done⟩ cs l c
  cases phase with
  | sign | point | exponentSign =>
    left
    simp only [inNumber, hdigit]
    exact hbreak
  | mark =>
    left
    obtain ⟨cs, hl, hexponent, mark, hmark, rfl⟩ := h
    have hspelled : ({ l with exponent := none } : NumberLiteral).Spelled cs := by
      rw [← hexponent]
      exact hl
    simp only [inNumber, hdigit]
    split_ifs with hplus hminus
    · subst hplus
      exact .goesOn ⟨cs, false, hspelled, rfl, mark, hmark, ['+'], by simp [exponentSigns], by simp⟩
    · subst hminus
      exact .goesOn ⟨cs, true, hspelled, rfl, mark, hmark, ['-'], by simp [exponentSigns], by simp⟩
    · exact hbreak
  | exponent =>
    simp only [inNumber, hdigit]
    exact .inr ⟨h.1, rfl⟩
  | fraction =>
    obtain ⟨hl, -, hexponent⟩ := h
    simp only [inNumber, hdigit]
    split_ifs with hmark
    · exact .inl (.goesOn ⟨cs, hl, hexponent, c, by simpa using hmark, rfl⟩)
    · exact .inr ⟨hl, rfl⟩
  | zero => exact advances_afterWhole done (.inl rfl) h.1 h.2.1 h.2.2 hdigit
  | whole => exact advances_afterWhole done (.inr rfl) h.1 h.2.1 h.2.2.1 hdigit

/-- One more character of a token. -/
theorem advances (done : List Token) {m : Mode} {cs : List Char} (h : m.Begun cs) (c : Char) :
    Advances done cs c (step ⟨m, done⟩ c) ∨
      ∃ l : NumberLiteral, l.Spelled cs ∧ digit? c = none ∧
        step ⟨m, done⟩ c = step ⟨.between, .number l :: done⟩ c := by
  cases m with
  | between | stopped => exact h.elim
  | word w rest => exact .inl (advances_word done h c)
  | string phase parts => exact .inl (advances_string done h c)
  | number phase l =>
    cases hdigit : digit? c with
    | some d =>
      obtain rfl := eq_char_of_digit? hdigit
      exact .inl (advances_digit done h d)
    | none =>
      rcases advances_nonDigit done h hdigit with hstep | ⟨hl, hstep⟩
      · exact .inl hstep
      · exact .inr ⟨l, hl, rfl, hstep⟩

/-- A fault stays. -/
theorem after_stopped (done : List Token) (cs : List Char) :
    after ⟨.stopped, done⟩ cs = ⟨.stopped, done⟩ := by
  induction cs with
  | nil => rfl
  | cons c cs ih => exact ih

/-- What is read without a fault follows the grammar, between tokens and within one. -/
structure ReadsBack (cs : List Char) : Prop where
  /-- The characters follow the tokens read so far. -/
  between (done : List Token)
    (hwhole : ∀ t ∈ (after ⟨.between, done⟩ cs).finish, t.IsWhole) :
    ∃ ts, (after ⟨.between, done⟩ cs).finish = done.reverse ++ ts ∧ Spaced ts cs
  /-- The characters follow the beginning of a token. -/
  begun {m : Mode} {pre : List Char} (hm : m.Begun pre) (done : List Token)
    (hwhole : ∀ t ∈ (after ⟨m, done⟩ cs).finish, t.IsWhole) :
    ∃ ts, (after ⟨m, done⟩ cs).finish = done.reverse ++ ts ∧ Spaced ts (pre ++ cs)

theorem readsBack_nil : ReadsBack [] where
  between done _ := ⟨[], by simp [finish], .nil (by simp)⟩
  begun {m pre} hm done hwhole := by
    cases m with
    | between | stopped => exact hm.elim
    | word w rest => cases hwhole (.word w (some .endOfInput)) (by simp [finish])
    | string phase parts =>
      cases hwhole (.string ⟨parts.reverse, some .endOfInput⟩) (by simp [finish])
    | number phase l =>
      rw [after_nil] at hwhole ⊢
      cases hphase : phase.complete with
      | false =>
        cases hwhole (.number { l with fault := some .endOfInput }) (by simp [finish, hphase])
      | true =>
        refine ⟨[.number l], by simp [finish, hphase], ?_⟩
        have hspelled : (Token.number l).Spelled pre := NumberPhase.Begun.spelled hm hphase
        exact .cons_direct hspelled (by simp) .empty

/-- A token that goes on with a character. -/
theorem Advances.spaced {done : List Token} {pre cs : List Char} {c : Char} {x : Lexer}
    (hx : Advances done pre c x) (hcs : ReadsBack cs)
    (hwhole : ∀ t ∈ (x.after cs).finish, t.IsWhole) :
    ∃ ts, (x.after cs).finish = done.reverse ++ ts ∧ Spaced ts (pre ++ c :: cs) := by
  rw [List.append_cons]
  cases hx with
  | goesOn hm => exact hcs.begun hm done hwhole
  | @ends t ht hnumber =>
    obtain ⟨ts, hfinish, hts⟩ := hcs.between _ hwhole
    refine ⟨t :: ts, by simpa using hfinish, ?_⟩
    exact .cons_tight ht hnumber hts
  | @breaks t ht =>
    rw [after_stopped] at hwhole
    exact absurd (hwhole t (by simp [finish])) ht

theorem readsBack (cs : List Char) : ReadsBack cs := by
  induction cs with
  | nil => exact readsBack_nil
  | cons c cs ih =>
    have hbetween (done : List Token)
        (hwhole : ∀ t ∈ (after ⟨.between, done⟩ (c :: cs)).finish, t.IsWhole) :
        ∃ ts, (after ⟨.between, done⟩ (c :: cs)).finish = done.reverse ++ ts ∧
          Spaced ts (c :: cs) := by
      rw [after_cons] at hwhole ⊢
      cases hc : isBlank c with
      | true =>
        rw [step_blank hc] at hwhole ⊢
        obtain ⟨ts, hfinish, hts⟩ := ih.between done hwhole
        exact ⟨ts, hfinish, hts.cons_blank hc⟩
      | false => exact (advances_begin done hc).spaced ih hwhole
    refine ⟨hbetween, fun {m pre} hm done hwhole => ?_⟩
    rw [after_cons] at hwhole ⊢
    rcases advances done hm c with hstep | ⟨l, hspelled, hdigit, hstep⟩
    · exact hstep.spaced ih hwhole
    · -- the number has ended before the character, which is read as between tokens
      rw [hstep] at hwhole ⊢
      obtain ⟨ts, hfinish, hts⟩ := hbetween _ hwhole
      refine ⟨.number l :: ts, by simpa using hfinish, ?_⟩
      have hgap : ∀ l', Token.number l = .number l' → ∀ c' ∈ (c :: cs).head?, digit? c' = none := by
        simpa using hdigit
      exact .cons_direct hspelled hgap hts

end Lexer

/-- A text that is read without a fault follows the grammar. -/
theorem spaced_of_tokens {cs : List Char} (h : ∀ t ∈ tokens cs, t.IsWhole) :
    Spaced (tokens cs) cs := by
  obtain ⟨ts, hfinish, hts⟩ := (Lexer.readsBack cs).between [] h
  have htokens : tokens cs = ts := hfinish
  rw [htokens]
  exact hts

end Json
end ModelPreview
