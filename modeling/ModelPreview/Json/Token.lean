import ModelPreview.Json.Literal

/-!
# Tokens

The text is read by a machine that takes one character at a time.  A token that breaks off is kept
together with its fault, and nothing is read after it; white space between tokens leaves no trace.

Main definitions:

- `Lexer.step`: one character.
- `tokens`: the tokens of a text.
-/

namespace ModelPreview
namespace Json

/-- A token of the JSON grammar. -/
inductive Token where
  /-- The character that opens an object. -/
  | openBrace
  /-- The character that closes an object. -/
  | closeBrace
  /-- The character that opens an array. -/
  | openBracket
  /-- The character that closes an array. -/
  | closeBracket
  /-- The character between a key and its value. -/
  | colon
  /-- The character between items. -/
  | comma
  /-- A word, with a fault if it is not spelled to its end. -/
  | word (w : Word) (fault : Option Fault)
  /-- A number. -/
  | number (literal : NumberLiteral)
  /-- A string. -/
  | string (literal : StringLiteral)
  /-- A character that belongs to no token. -/
  | stray
  deriving DecidableEq, Repr

/-- Whether a character may stand between tokens. -/
def isBlank (c : Char) : Bool := c == ' ' || c == '\n' || c == '\t' || c == '\r'

/-- Where the reading of a number stands. -/
inductive NumberPhase where
  /-- After the minus sign. -/
  | sign
  /-- After a leading zero. -/
  | zero
  /-- Among the digits before the point. -/
  | whole
  /-- Right after the point. -/
  | point
  /-- Among the digits after the point. -/
  | fraction
  /-- Right after the exponent mark. -/
  | mark
  /-- After the sign of the exponent. -/
  | exponentSign
  /-- Among the digits of the exponent. -/
  | exponent
  deriving DecidableEq, Repr

/-- Whether the literal may end in this phase. -/
def NumberPhase.complete : NumberPhase → Bool
  | .zero | .whole | .fraction | .exponent => true
  | .sign | .point | .mark | .exponentSign => false

/-- Where the reading of a string stands. -/
inductive StringPhase where
  /-- Between characters. -/
  | plain
  /-- After a backslash. -/
  | escape
  /-- Within a numeric escape: bytes seen, value so far, and whether all were hexadecimal digits. -/
  | hex (bytes : Nat) (value : Nat) (valid : Bool)
  deriving DecidableEq, Repr

/-- What the machine is in the middle of. -/
inductive Mode where
  /-- Between tokens. -/
  | between
  /-- Within a word, with the characters still to come. -/
  | word (w : Word) (rest : List Char)
  /-- Within a number. -/
  | number (phase : NumberPhase) (literal : NumberLiteral)
  /-- Within a string; the pieces are in reverse order. -/
  | string (phase : StringPhase) (parts : List StringPart)
  /-- After a fault. -/
  | stopped
  deriving DecidableEq, Repr

/-- The reading machine: its mode and the tokens read so far, in reverse order. -/
structure Lexer where
  /-- What the machine is in the middle of. -/
  mode : Mode
  /-- The finished tokens, the last one first. -/
  done : List Token
  deriving DecidableEq, Repr

namespace Lexer

/-- The machine before the first character. -/
def start : Lexer := ⟨.between, []⟩

/-- Finish a token and go on. -/
def emit (x : Lexer) (t : Token) : Lexer := ⟨.between, t :: x.done⟩

/-- Finish a token and read no further. -/
def stop (x : Lexer) (t : Token) : Lexer := ⟨.stopped, t :: x.done⟩

/-- Change the mode. -/
def enter (x : Lexer) (m : Mode) : Lexer := ⟨m, x.done⟩

/-- The literal of a number none of whose digits has been read. -/
def blankNumber (negative : Bool) : NumberLiteral := ⟨negative, [], none, none, none⟩

/-- The first digit of a number; behind a zero no other digit may follow. -/
def firstDigit (x : Lexer) (l : NumberLiteral) (d : Digit) : Lexer :=
  x.enter (.number (if d.val = 0 then .zero else .whole) { l with whole := [d] })

/-- One character between tokens. -/
def begin (x : Lexer) (c : Char) : Lexer :=
  if isBlank c then x.enter .between
  else
    match c with
    | '\x7b' => x.emit .openBrace
    | '\x7d' => x.emit .closeBrace
    | '[' => x.emit .openBracket
    | ']' => x.emit .closeBracket
    | ':' => x.emit .colon
    | ',' => x.emit .comma
    | '"' => x.enter (.string .plain [])
    | 'n' => x.enter (.word .null ['u', 'l', 'l'])
    | 't' => x.enter (.word .true ['r', 'u', 'e'])
    | 'f' => x.enter (.word .false ['a', 'l', 's', 'e'])
    | '-' => x.enter (.number .sign (blankNumber true))
    | _ =>
      match digit? c with
      | some d => x.firstDigit (blankNumber false) d
      | none => x.stop .stray

/-- One character within a word. -/
def inWord (x : Lexer) (w : Word) (rest : List Char) (c : Char) : Lexer :=
  match rest with
  | [] => (x.emit (.word w none)).begin c
  | [r] => if c = r then x.emit (.word w none) else x.stop (.word w (some .malformed))
  | r :: rs => if c = r then x.enter (.word w rs) else x.stop (.word w (some .malformed))

/-- Break a number off at a character that may not follow. -/
def breakNumber (x : Lexer) (l : NumberLiteral) : Lexer :=
  x.stop (.number { l with fault := some .malformed })

/-- One character within a number.  Digits are appended to the part they belong to; a character
that cannot continue the number ends it and is read anew. -/
def inNumber (x : Lexer) (phase : NumberPhase) (l : NumberLiteral) (c : Char) : Lexer :=
  match phase, digit? c with
  | .sign, some d => x.firstDigit l d
  | .sign, none => x.breakNumber l
  | .zero, some _ => x.breakNumber l
  | .whole, some d => x.enter (.number .whole { l with whole := l.whole ++ [d] })
  | .point, some d => x.enter (.number .fraction { l with fraction := some [d] })
  | .point, none => x.breakNumber l
  | .fraction, some d =>
    x.enter (.number .fraction { l with fraction := l.fraction.map (· ++ [d]) })
  | .mark, some d => x.enter (.number .exponent { l with exponent := some (false, [d]) })
  | .mark, none =>
    if c = '+' then x.enter (.number .exponentSign { l with exponent := some (false, []) })
    else if c = '-' then x.enter (.number .exponentSign { l with exponent := some (true, []) })
    else x.breakNumber l
  | .exponentSign, some d =>
    x.enter (.number .exponent { l with exponent := l.exponent.map fun e => (e.1, [d]) })
  | .exponentSign, none => x.breakNumber l
  | .exponent, some d =>
    x.enter (.number .exponent { l with exponent := l.exponent.map fun e => (e.1, e.2 ++ [d]) })
  | .exponent, none => (x.emit (.number l)).begin c
  | .fraction, none =>
    if c = 'e' ∨ c = 'E' then x.enter (.number .mark l) else (x.emit (.number l)).begin c
  | .zero, none | .whole, none =>
    if c = '.' then x.enter (.number .point l)
    else if c = 'e' ∨ c = 'E' then x.enter (.number .mark l)
    else (x.emit (.number l)).begin c

/-- The value of a hexadecimal digit. -/
def hexDigit? (c : Char) : Option Nat :=
  if '0' ≤ c ∧ c ≤ '9' then some (c.toNat - '0'.toNat)
  else if 'a' ≤ c ∧ c ≤ 'f' then some (c.toNat - 'a'.toNat + 10)
  else if 'A' ≤ c ∧ c ≤ 'F' then some (c.toNat - 'A'.toNat + 10)
  else none

/-- The character a short escape stands for. -/
def shortEscape? : Char → Option Char
  | '"' => some '"'
  | '\\' => some '\\'
  | '/' => some '/'
  | 'b' => some '\x08'
  | 'f' => some '\x0c'
  | 'n' => some '\n'
  | 'r' => some '\r'
  | 't' => some '\t'
  | _ => none

/-- Break a string off. -/
def breakString (x : Lexer) (parts : List StringPart) (f : Fault) : Lexer :=
  x.stop (.string ⟨parts.reverse, some f⟩)

/-- One character within a string.  A numeric escape is judged once four bytes have been seen. -/
def inString (x : Lexer) (phase : StringPhase) (parts : List StringPart) (c : Char) : Lexer :=
  match phase with
  | .plain =>
    if c = '"' then x.emit (.string ⟨parts.reverse, none⟩)
    else if c = '\\' then x.enter (.string .escape parts)
    else if c.toNat < 0x20 then x.breakString parts .malformed
    else x.enter (.string .plain (.char c :: parts))
  | .escape =>
    if c = 'u' then x.enter (.string (.hex 0 0 true) parts)
    else
      match shortEscape? c with
      | some e => x.enter (.string .plain (.char e :: parts))
      | none => x.breakString parts .malformed
  | .hex bytes value valid =>
    let bytes := bytes + c.utf8Size
    let (value, valid) :=
      match hexDigit? c with
      | some d => (16 * value + d, valid)
      | none => (value, false)
    if bytes < 4 then x.enter (.string (.hex bytes value valid) parts)
    else if valid then x.enter (.string .plain (.unit value :: parts))
    else x.breakString parts .malformed

/-- One character. -/
def step (x : Lexer) (c : Char) : Lexer :=
  match x.mode with
  | .between => x.begin c
  | .word w rest => x.inWord w rest c
  | .number phase l => x.inNumber phase l c
  | .string phase parts => x.inString phase parts c
  | .stopped => x

/-- The end of the text. -/
def finish (x : Lexer) : List Token :=
  match x.mode with
  | .between | .stopped => x.done.reverse
  | .word w _ => (.word w (some .endOfInput) :: x.done).reverse
  | .number phase l =>
    (.number (if phase.complete then l else { l with fault := some .endOfInput }) :: x.done).reverse
  | .string _ parts => (.string ⟨parts.reverse, some .endOfInput⟩ :: x.done).reverse

end Lexer

/-- The tokens of a text, up to the first that breaks off. -/
def tokens (cs : List Char) : List Token := (cs.foldl Lexer.step .start).finish

end Json
end ModelPreview
