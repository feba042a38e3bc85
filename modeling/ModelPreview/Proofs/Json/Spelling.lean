import Mathlib
import ModelPreview.Json.Render
import ModelPreview.Proofs.Json.Literal

/-!
# How tokens are written

The grammar leaves some freedom to a writer: an exponent may be marked in two ways and go without
its sign, a character may be escaped, and white space may stand between any two tokens.  The reading
machine takes every text of the grammar as the tokens it was written from.

A number only ends where the next character does not belong to it, so after a token the machine may
still be inside a number.

Main definitions:

- `Token.Spelled`: the ways to write one token.
- `Spaced`: the ways to write a list of tokens, with white space between them.

Main results:

- `Lexer.after_number` and `Lexer.after_string`: reading one literal.
- `tokens_eq_of_spaced`: a text of the grammar is read as its tokens.
-/

namespace ModelPreview
namespace Json

/-! ## The grammar -/

/-- The sign in front of a number. -/
def renderSign (negative : Bool) : List Char := if negative then ['-'] else []

/-- The written part after the point. -/
def renderFraction : Option (List Digit) → List Char
  | some ds => '.' :: renderDigits ds
  | none => []

/-- The ways to write the sign of an exponent. -/
def exponentSigns : Bool → List (List Char)
  | false => [[], ['+']]
  | true => [['-']]

/-- The ways to write an exponent. -/
def ExponentSpelled : Option (Bool × List Digit) → List Char → Prop
  | none, cs => cs = []
  | some (minus, ds), cs =>
    ds ≠ [] ∧ ∃ mark ∈ ['e', 'E'], ∃ sign ∈ exponentSigns minus,
      cs = mark :: (sign ++ renderDigits ds)

/-- The ways to write a number. -/
structure NumberLiteral.Spelled (l : NumberLiteral) (cs : List Char) : Prop where
  wellFormed : l.WellFormed
  exists_eq : ∃ es, ExponentSpelled l.exponent es ∧
    cs = renderSign l.negative ++ renderDigits l.whole ++ renderFraction l.fraction ++ es

/-- The number with the given hexadecimal digits. -/
def hexValue (ns : List Nat) : Nat := ns.foldl (fun v n => 16 * v + n) 0

/-- The ways to write a piece of a string. -/
inductive StringPart.Spelled : StringPart → List Char → Prop
  /-- A character stands for itself. -/
  | plain {c : Char} (hquote : c ≠ '"') (hbackslash : c ≠ '\\') (hcontrol : 0x20 ≤ c.toNat) :
    Spelled (.char c) [c]
  /-- A character is given by a letter. -/
  | short {c e : Char} (h : Lexer.shortEscape? e = some c) : Spelled (.char c) ['\\', e]
  /-- A code unit is given by four hexadecimal digits. -/
  | numeric {ns : List Nat} {cs : List Char} (hlength : ns.length = 4)
    (hdigits : cs.map Lexer.hexDigit? = ns.map some) :
    Spelled (.unit (hexValue ns)) ('\\' :: 'u' :: cs)

/-- The ways to write the pieces of a string. -/
inductive PartsSpelled : List StringPart → List Char → Prop
  | nil : PartsSpelled [] []
  | cons {part : StringPart} {ps : List StringPart} {cs rest : List Char}
    (hpart : part.Spelled cs) (hps : PartsSpelled ps rest) : PartsSpelled (part :: ps) (cs ++ rest)

/-- The ways to write a string. -/
structure StringLiteral.Spelled (l : StringLiteral) (cs : List Char) : Prop where
  fault_eq : l.fault = none
  exists_eq : ∃ body, PartsSpelled l.parts body ∧ cs = '"' :: (body ++ ['"'])

/-- The ways to write a token. -/
def Token.Spelled : Token → List Char → Prop
  | .openBrace, cs => cs = ['\x7b']
  | .closeBrace, cs => cs = ['\x7d']
  | .openBracket, cs => cs = ['[']
  | .closeBracket, cs => cs = [']']
  | .colon, cs => cs = [':']
  | .comma, cs => cs = [',']
  | .word w f, cs => f = none ∧ cs = w.spelling
  | .number l, cs => l.Spelled cs
  | .string l, cs => l.Spelled cs
  | .stray, _ => False

/-- The ways to write a list of tokens: white space may stand before and after every token.  Only
two numbers need something between them. -/
inductive Spaced : List Token → List Char → Prop
  | nil {ws : List Char} (hws : ∀ c ∈ ws, isBlank c = true) : Spaced [] ws
  | cons {t : Token} {ts : List Token} {ws cs rest : List Char} (hws : ∀ c ∈ ws, isBlank c = true)
    (ht : t.Spelled cs) (hgap : ∀ l, t = .number l → ∀ c ∈ rest.head?, digit? c = none)
    (hrest : Spaced ts rest) : Spaced (t :: ts) (ws ++ cs ++ rest)

namespace Spaced

variable {t : Token} {ts : List Token} {cs rest : List Char}

theorem empty : Spaced [] [] := .nil (by simp)

/-- A token with nothing in front. -/
theorem cons_direct (ht : t.Spelled cs)
    (hgap : ∀ l, t = .number l → ∀ c ∈ rest.head?, digit? c = none) (hrest : Spaced ts rest) :
    Spaced (t :: ts) (cs ++ rest) := by
  have h : Spaced (t :: ts) ([] ++ cs ++ rest) := .cons (by simp) ht hgap hrest
  exact h

/-- A token that is no number may be followed by anything. -/
theorem cons_tight (ht : t.Spelled cs) (hnumber : ∀ l, t ≠ .number l) (hrest : Spaced ts rest) :
    Spaced (t :: ts) (cs ++ rest) :=
  cons_direct ht (fun l hl => absurd hl (hnumber l)) hrest

/-- A token of one character. -/
theorem cons_char {c : Char} (ht : t.Spelled [c]) (hnumber : ∀ l, t ≠ .number l)
    (hrest : Spaced ts rest) : Spaced (t :: ts) (c :: rest) := cons_tight ht hnumber hrest

/-- White space in front changes nothing. -/
theorem cons_blank (h : Spaced ts cs) {c : Char} (hc : isBlank c = true) :
    Spaced ts (c :: cs) := by
  cases h with
  | nil hws => exact .nil (List.forall_mem_cons.2 ⟨hc, hws⟩)
  | cons hws ht hgap hrest => exact .cons (List.forall_mem_cons.2 ⟨hc, hws⟩) ht hgap hrest

end Spaced

/-! ## Digits -/

@[simp]
theorem digit?_char (d : Digit) : digit? d.char = some d := by
  revert d
  decide

/-- A digit is written in one way. -/
theorem eq_char_of_digit? {c : Char} {d : Digit} (h : digit? c = some d) : c = d.char := by
  simp only [digit?] at h
  split at h
  · rename_i hc
    cases h
    have hle : 48 ≤ c.toNat := hc.1
    have hsum : '0'.toNat + (c.toNat - '0'.toNat) = c.toNat := by
      change 48 + (c.toNat - 48) = c.toNat
      omega
    rw [Digit.char, hsum, Char.ofNat_toNat]
  · cases h

/-- A hexadecimal digit is written in one byte. -/
theorem utf8Size_of_hexDigit? {c : Char} {n : ℕ} (h : Lexer.hexDigit? c = some n) :
    c.utf8Size = 1 := by
  have hle : c.val ≤ 0x7f := by
    unfold Lexer.hexDigit? at h
    split_ifs at h with h₁ h₂ h₃
    · exact UInt32.le_trans h₁.2 (by decide)
    · exact UInt32.le_trans h₂.2 (by decide)
    · exact UInt32.le_trans h₃.2 (by decide)
  exact Char.utf8Size_eq_one_iff.2 hle

namespace Lexer

/-- The machine after some characters. -/
def after (x : Lexer) (cs : List Char) : Lexer := cs.foldl step x

@[simp]
theorem after_nil (x : Lexer) : x.after [] = x := rfl

@[simp]
theorem after_cons (x : Lexer) (c : Char) (cs : List Char) :
    x.after (c :: cs) = (x.step c).after cs := rfl

@[simp]
theorem after_append (x : Lexer) (cs cs' : List Char) :
    x.after (cs ++ cs') = (x.after cs).after cs' := List.foldl_append

/-! ## Reading a number -/

/-- A first digit opens a number. -/
theorem step_firstDigit (done : List Token) (d : Digit) :
    step ⟨.between, done⟩ d.char
      = ⟨.number (if d.val = 0 then .zero else .whole) ⟨false, [d], none, none, none⟩, done⟩ := by
  fin_cases d <;> rfl

/-- A run of digits within one part of a number; `f` fills the part. -/
theorem after_renderDigits {phase : NumberPhase} {f : List Digit → NumberLiteral}
    {done : List Token}
    (hstep : ∀ ds d, step ⟨.number phase (f ds), done⟩ d.char
      = ⟨.number phase (f (ds ++ [d])), done⟩) (ds ds' : List Digit) :
    after ⟨.number phase (f ds), done⟩ (renderDigits ds')
      = ⟨.number phase (f (ds ++ ds')), done⟩ := by
  induction ds' generalizing ds with
  | nil => simp [renderDigits]
  | cons d ds' ih =>
    rw [renderDigits, List.map_cons, after_cons, hstep]
    simpa [renderDigits] using ih (ds ++ [d])

/-- Sign and digits before the point. -/
theorem after_whole (done : List Token) (negative : Bool) {whole : List Digit} (hne : whole ≠ [])
    (hlead : whole.head? = some 0 → whole = [0]) :
    ∃ phase, (phase = .zero ∨ phase = .whole) ∧
      after ⟨.between, done⟩ (renderSign negative ++ renderDigits whole)
        = ⟨.number phase ⟨negative, whole, none, none, none⟩, done⟩ := by
  obtain ⟨d, ds, rfl⟩ := List.exists_cons_of_ne_nil hne
  have hfirst : after ⟨.between, done⟩ (renderSign negative ++ [d.char])
      = ⟨.number (if d.val = 0 then .zero else .whole) ⟨negative, [d], none, none, none⟩,
        done⟩ := by
    cases negative
    · simp [renderSign, step_firstDigit]
    · simp [renderSign, step, begin, isBlank, enter, blankNumber, inNumber, firstDigit]
  have hsplit : renderSign negative ++ renderDigits (d :: ds)
      = (renderSign negative ++ [d.char]) ++ renderDigits ds := by
    simp [renderDigits]
  rw [hsplit, after_append, hfirst]
  by_cases hzero : d = 0
  · subst hzero
    obtain rfl : ds = [] := by simpa using hlead rfl
    exact ⟨.zero, .inl rfl, rfl⟩
  · refine ⟨.whole, .inr rfl, ?_⟩
    have hval : d.val ≠ 0 := fun h => hzero (Fin.ext h)
    rw [if_neg hval]
    exact after_renderDigits (f := fun ds => ⟨negative, ds, none, none, none⟩)
      (fun ds d => by simp [step, inNumber, enter]) [d] ds

/-- The part after the point, if there is one. -/
theorem after_fraction (done : List Token) (negative : Bool) (whole : List Digit)
    {fraction : Option (List Digit)} (hne : fraction ≠ some []) {phase : NumberPhase}
    (hphase : phase = .zero ∨ phase = .whole) :
    ∃ phase', (phase' = .zero ∨ phase' = .whole ∨ phase' = .fraction) ∧
      after ⟨.number phase ⟨negative, whole, none, none, none⟩, done⟩ (renderFraction fraction)
        = ⟨.number phase' ⟨negative, whole, fraction, none, none⟩, done⟩ := by
  match fraction, hne with
  | none, _ =>
    refine ⟨phase, ?_, rfl⟩
    rcases hphase with rfl | rfl
    · exact .inl rfl
    · exact .inr (.inl rfl)
  | some (d :: ds), _ =>
    refine ⟨.fraction, .inr (.inr rfl), ?_⟩
    have hpoint : step ⟨.number phase ⟨negative, whole, none, none, none⟩, done⟩ '.'
        = ⟨.number .point ⟨negative, whole, none, none, none⟩, done⟩ := by
      rcases hphase with rfl | rfl <;> rfl
    rw [renderFraction, after_cons, hpoint, renderDigits, List.map_cons, after_cons]
    have hfirst : step ⟨.number .point ⟨negative, whole, none, none, none⟩, done⟩ d.char
        = ⟨.number .fraction ⟨negative, whole, some [d], none, none⟩, done⟩ := by
      simp [step, inNumber, enter]
    rw [hfirst]
    exact after_renderDigits (f := fun ds => ⟨negative, whole, some ds, none, none⟩)
      (fun ds d => by simp [step, inNumber, enter]) [d] ds

/-- The exponent, if there is one. -/
theorem after_exponent (done : List Token) (negative : Bool) (whole : List Digit)
    (fraction : Option (List Digit)) {exponent : Option (Bool × List Digit)} {es : List Char}
    (hes : ExponentSpelled exponent es) {phase : NumberPhase}
    (hphase : phase = .zero ∨ phase = .whole ∨ phase = .fraction) :
    ∃ phase', phase'.complete = true ∧
      after ⟨.number phase ⟨negative, whole, fraction, none, none⟩, done⟩ es
        = ⟨.number phase' ⟨negative, whole, fraction, exponent, none⟩, done⟩ := by
  match exponent, hes with
  | none, hes =>
    obtain rfl : es = [] := hes
    refine ⟨phase, ?_, rfl⟩
    rcases hphase with rfl | rfl | rfl <;> rfl
  | some (minus, ds), ⟨hne, mark, hmark, sign, hsign, hes⟩ =>
    obtain ⟨d, ds, rfl⟩ := List.exists_cons_of_ne_nil hne
    subst hes
    refine ⟨.exponent, rfl, ?_⟩
    have hopen : step ⟨.number phase ⟨negative, whole, fraction, none, none⟩, done⟩ mark
        = ⟨.number .mark ⟨negative, whole, fraction, none, none⟩, done⟩ := by
      simp only [List.mem_cons, List.not_mem_nil, or_false] at hmark
      rcases hphase with rfl | rfl | rfl <;> rcases hmark with rfl | rfl <;> rfl
    have hfirst : after ⟨.number .mark ⟨negative, whole, fraction, none, none⟩, done⟩
        (sign ++ [d.char])
        = ⟨.number .exponent ⟨negative, whole, fraction, some (minus, [d]), none⟩, done⟩ := by
      have hdigit : step ⟨.number .exponentSign
          ⟨negative, whole, fraction, some (minus, []), none⟩, done⟩ d.char
          = ⟨.number .exponent ⟨negative, whole, fraction, some (minus, [d]), none⟩, done⟩ := by
        simp [step, inNumber, enter]
      cases minus <;> simp only [exponentSigns, List.mem_cons, List.not_mem_nil, or_false] at hsign
      · rcases hsign with rfl | rfl
        · simp [step, inNumber, enter]
        · exact hdigit
      · subst hsign
        exact hdigit
    have hsplit : sign ++ renderDigits (d :: ds) = (sign ++ [d.char]) ++ renderDigits ds := by
      simp [renderDigits]
    rw [after_cons, hopen, hsplit, after_append, hfirst]
    exact after_renderDigits (f := fun ds => ⟨negative, whole, fraction, some (minus, ds), none⟩)
      (fun ds d => by simp [step, inNumber, enter]) [d] ds

/-- A written number is read up to where it may end. -/
theorem after_number {l : NumberLiteral} {cs : List Char} (hl : l.Spelled cs) (done : List Token) :
    ∃ phase, phase.complete = true ∧ after ⟨.between, done⟩ cs = ⟨.number phase l, done⟩ := by
  obtain ⟨negative, whole, fraction, exponent, fault⟩ := l
  obtain ⟨⟨hfault, hwhole, hlead, hfraction, -⟩, es, hes, rfl⟩ := hl
  simp only at hfault hwhole hlead hfraction hes ⊢
  subst hfault
  obtain ⟨phase₁, hphase₁, h₁⟩ := after_whole done negative hwhole hlead
  obtain ⟨phase₂, hphase₂, h₂⟩ := after_fraction done negative whole hfraction hphase₁
  obtain ⟨phase₃, hphase₃, h₃⟩ := after_exponent done negative whole fraction hes hphase₂
  refine ⟨phase₃, hphase₃, ?_⟩
  rw [after_append, after_append, h₁, h₂, h₃]

/-! ## Reading a string -/

/-- The digits of a numeric escape, of which some have been read. -/
theorem after_hexDigits {ns : List ℕ} {cs : List Char} (hdigits : cs.map hexDigit? = ns.map some)
    {k : ℕ} (hk : k + ns.length = 4) (hne : ns ≠ []) (v : ℕ) (parts : List StringPart)
    (done : List Token) :
    after ⟨.string (.hex k v true) parts, done⟩ cs
      = ⟨.string .plain (.unit (ns.foldl (fun v n => 16 * v + n) v) :: parts), done⟩ := by
  induction ns generalizing cs k v with
  | nil => exact absurd rfl hne
  | cons n ns ih =>
    obtain ⟨c, cs, rfl⟩ : ∃ c cs', cs = c :: cs' := by
      cases cs with
      | nil => cases hdigits
      | cons c cs => exact ⟨c, cs, rfl⟩
    obtain ⟨hc, hcs⟩ := List.cons.inj hdigits
    have hsize := utf8Size_of_hexDigit? hc
    rw [List.length_cons] at hk
    rw [after_cons, List.foldl_cons]
    by_cases hlast : ns = []
    · subst hlast
      obtain rfl : cs = [] := by simpa using hcs
      obtain rfl : k = 3 := by simpa using hk
      simp [step, inString, hc, hsize, enter]
    · have hlt : k + 1 < 4 := by
        have := List.length_pos_iff.2 hlast
        omega
      have hstep : step ⟨.string (.hex k v true) parts, done⟩ c
          = ⟨.string (.hex (k + 1) (16 * v + n) true) parts, done⟩ := by
        simp [step, inString, hc, hsize, hlt, enter]
      rw [hstep]
      exact ih hcs (by omega) hlast _

/-- A written piece of a string. -/
theorem after_part {part : StringPart} {cs : List Char} (hpart : part.Spelled cs)
    (parts : List StringPart) (done : List Token) :
    after ⟨.string .plain parts, done⟩ cs = ⟨.string .plain (part :: parts), done⟩ := by
  cases hpart with
  | plain hquote hbackslash hcontrol =>
    simp [step, inString, hquote, hbackslash, hcontrol, enter]
  | @short c e h =>
    have hunit : e ≠ 'u' := by
      rintro rfl
      cases h
    simp [step, inString, enter, hunit, h]
  | @numeric ns cs hlength hdigits =>
    have hopen : step (step ⟨.string .plain parts, done⟩ '\\') 'u'
        = ⟨.string (.hex 0 0 true) parts, done⟩ := rfl
    have hne : ns ≠ [] := by
      rintro rfl
      cases hlength
    rw [after_cons, after_cons, hopen, after_hexDigits hdigits (by omega) hne, hexValue]

/-- The written pieces of a string. -/
theorem after_parts {ps : List StringPart} {cs : List Char} (hps : PartsSpelled ps cs)
    (parts : List StringPart) (done : List Token) :
    after ⟨.string .plain parts, done⟩ cs = ⟨.string .plain (ps.reverse ++ parts), done⟩ := by
  induction hps generalizing parts with
  | nil => rfl
  | cons hpart hps ih =>
    rw [after_append, after_part hpart, ih]
    simp

/-- A written string is read as the string. -/
theorem after_string {l : StringLiteral} {cs : List Char} (hl : l.Spelled cs)
    (done : List Token) : after ⟨.between, done⟩ cs = ⟨.between, .string l :: done⟩ := by
  obtain ⟨parts, fault⟩ := l
  obtain ⟨hfault, body, hbody, rfl⟩ := hl
  simp only at hfault hbody
  subst hfault
  have hopen : step ⟨.between, done⟩ '"' = ⟨.string .plain [], done⟩ := rfl
  rw [after_cons, hopen, after_append, after_parts hbody]
  simp [step, inString, emit]

/-! ## Where a token may end -/

/-- The machine has read the given tokens and stands at the end of the last. -/
def Holds (x : Lexer) (done : List Token) : Prop :=
  x = ⟨.between, done⟩ ∨
    ∃ phase l rest, phase.complete = true ∧ x = ⟨.number phase l, rest⟩ ∧ done = .number l :: rest

/-- A character that does not belong to a number ends it. -/
theorem Holds.step_eq {x : Lexer} {done : List Token} (hx : x.Holds done) {c : Char}
    (hdigit : (∃ l, .number l ∈ done.head?) → digit? c = none) (hc : c ∉ ['.', 'e', 'E']) :
    x.step c = step ⟨.between, done⟩ c := by
  rcases hx with rfl | ⟨phase, l, rest, hphase, rfl, rfl⟩
  · rfl
  · have hnone := hdigit ⟨l, rfl⟩
    simp only [List.mem_cons, List.not_mem_nil, or_false, not_or] at hc
    cases phase <;> simp only [NumberPhase.complete, Bool.false_eq_true] at hphase <;>
      simp [step, inNumber, hnone, hc, emit]

/-- The end of the text ends a token. -/
theorem Holds.finish_eq {x : Lexer} {done : List Token} (hx : x.Holds done) :
    x.finish = done.reverse := by
  rcases hx with rfl | ⟨phase, l, rest, hphase, rfl, rfl⟩
  · rfl
  · simp [finish, hphase]

theorem step_blank {c : Char} (hc : isBlank c = true) (done : List Token) :
    step ⟨.between, done⟩ c = ⟨.between, done⟩ := by
  simp [step, begin, hc, enter]

theorem after_blanks {ws : List Char} (hws : ∀ c ∈ ws, isBlank c = true) (done : List Token) :
    after ⟨.between, done⟩ ws = ⟨.between, done⟩ := by
  induction ws with
  | nil => rfl
  | cons c ws ih =>
    obtain ⟨hc, hws⟩ := List.forall_mem_cons.1 hws
    rw [after_cons, step_blank hc, ih hws]

/-- A written token is read as the token. -/
theorem holds_after_token {t : Token} {cs : List Char} (ht : t.Spelled cs) (done : List Token) :
    (after ⟨.between, done⟩ cs).Holds (t :: done) := by
  cases t with
  | word w f =>
    obtain ⟨rfl, rfl⟩ := ht
    left
    cases w <;> rfl
  | number l =>
    obtain ⟨phase, hphase, hafter⟩ := after_number ht done
    exact .inr ⟨phase, l, done, hphase, hafter, rfl⟩
  | string l => exact .inl (after_string ht done)
  | stray => exact ht.elim
  | _ =>
    obtain rfl := ht
    exact .inl rfl

end Lexer

/-! ## Reading a written text -/

theorem Token.Spelled.exists_cons {t : Token} {cs : List Char} (ht : t.Spelled cs) :
    ∃ c cs', cs = c :: cs' ∧ c ∉ ['.', 'e', 'E'] := by
  cases t with
  | word w f =>
    obtain ⟨rfl, rfl⟩ := ht
    cases w <;> exact ⟨_, _, rfl, by decide⟩
  | number l =>
    obtain ⟨hl, es, hes, rfl⟩ := ht
    obtain ⟨d, ds, hwhole⟩ := List.exists_cons_of_ne_nil hl.whole_ne_nil
    rw [hwhole]
    cases l.negative
    · have hchar : ∀ d : Digit, d.char ∉ ['.', 'e', 'E'] := by decide
      exact ⟨d.char, _, rfl, hchar d⟩
    · exact ⟨'-', _, rfl, by decide⟩
  | string l =>
    obtain ⟨-, body, -, rfl⟩ := ht
    exact ⟨'"', _, rfl, by decide⟩
  | stray => exact ht.elim
  | _ =>
    obtain rfl := ht
    exact ⟨_, _, rfl, by decide⟩

theorem not_mem_of_isBlank {c : Char} (hc : isBlank c = true) : c ∉ ['.', 'e', 'E'] := by
  intro hmem
  simp only [List.mem_cons, List.not_mem_nil, or_false] at hmem
  rcases hmem with rfl | rfl | rfl <;> cases hc

/-- A written text does not start with a character that only goes on with a number. -/
theorem Spaced.head?_notMem {ts : List Token} {cs : List Char} (h : Spaced ts cs) :
    ∀ c ∈ cs.head?, c ∉ ['.', 'e', 'E'] := by
  cases h with
  | @nil ws hws => exact fun c hc => not_mem_of_isBlank (hws c (List.mem_of_mem_head? hc))
  | @cons t ts ws cs rest hws ht hgap hrest =>
    cases ws with
    | nil =>
      obtain ⟨c, cs', rfl, hc⟩ := ht.exists_cons
      simpa using hc
    | cons c ws =>
      obtain ⟨hc, -⟩ := List.forall_mem_cons.1 hws
      simpa using not_mem_of_isBlank hc

namespace Lexer

/-- The machine forgets where the last token ended when it goes on with a written text. -/
theorem Holds.after_eq {x : Lexer} {done : List Token} (hx : x.Holds done) {ts : List Token}
    {cs : List Char} (h : Spaced ts cs)
    (hgap : (∃ l, .number l ∈ done.head?) → ∀ c ∈ cs.head?, digit? c = none) :
    (x.after cs).Holds done ∧ cs = [] ∨ x.after cs = after ⟨.between, done⟩ cs := by
  cases cs with
  | nil => exact .inl ⟨hx, rfl⟩
  | cons c cs =>
    right
    have hc := h.head?_notMem c rfl
    rw [after_cons, hx.step_eq (fun hl => hgap hl c rfl) hc]
    rfl

/-- A written list of tokens is read as the tokens. -/
theorem holds_after_spaced {ts : List Token} {cs : List Char} (h : Spaced ts cs) {x : Lexer}
    {done : List Token} (hx : x.Holds done)
    (hgap : (∃ l, .number l ∈ done.head?) → ∀ c ∈ cs.head?, digit? c = none) :
    (x.after cs).Holds (ts.reverse ++ done) := by
  induction h generalizing x done with
  | @nil ws hws =>
    rcases hx.after_eq (.nil hws) hgap with ⟨hx, -⟩ | hafter
    · exact hx
    · rw [hafter]
      exact .inl (after_blanks hws done)
  | @cons t ts ws cs rest hws ht hgap' hrest ih =>
    rcases hx.after_eq (.cons hws ht hgap' hrest) hgap with ⟨-, hnil⟩ | hafter
    · obtain ⟨c, cs', rfl, -⟩ := ht.exists_cons
      simp at hnil
    · rw [hafter, after_append, after_append, after_blanks hws, List.reverse_cons,
        List.append_assoc]
      refine ih (holds_after_token ht done) ?_
      rintro ⟨l, hl⟩
      exact hgap' l (by simpa using hl)

end Lexer

/-- A text of the grammar is read as its tokens. -/
theorem tokens_eq_of_spaced {ts : List Token} {cs : List Char} (h : Spaced ts cs) :
    tokens cs = ts := by
  have hstart : Lexer.start.Holds [] := .inl rfl
  have hholds := Lexer.holds_after_spaced h hstart (by simp)
  rw [List.append_nil] at hholds
  have hfinish := hholds.finish_eq
  rw [List.reverse_reverse] at hfinish
  exact hfinish

end Json
end ModelPreview
