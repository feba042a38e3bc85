import ModelPreview.Json.Tree

/-!
# Writing JSON

A tree is written without spaces.  Within strings the quotation mark, the backslash and the control
characters are escaped and nothing else.
-/

namespace ModelPreview
namespace Json

/-- A hexadecimal digit in lower case. -/
def hexChar (n : Nat) : Char := (Nat.toDigits 16 (n % 16)).headD '0'

/-- A number with exactly the given count of hexadecimal digits. -/
def hexChars : Nat → Nat → List Char
  | 0, _ => []
  | k + 1, n => hexChars k (n / 16) ++ [hexChar n]

/-- A character within a string. -/
def escapeChar (c : Char) : List Char :=
  match c with
  | '"' => ['\\', '"']
  | '\\' => ['\\', '\\']
  | '\x08' => ['\\', 'b']
  | '\x0c' => ['\\', 'f']
  | '\n' => ['\\', 'n']
  | '\r' => ['\\', 'r']
  | '\t' => ['\\', 't']
  | c => if c.toNat < 0x20 then '\\' :: 'u' :: hexChars 4 c.toNat else [c]

/-- A piece of a string. -/
def StringPart.render : StringPart → List Char
  | .char c => escapeChar c
  | .unit u => '\\' :: 'u' :: hexChars 4 u

/-- A string with its quotation marks. -/
def StringLiteral.render (l : StringLiteral) : List Char :=
  '"' :: l.parts.flatMap StringPart.render ++ ['"']

/-- A run of digits. -/
def renderDigits (ds : List Digit) : List Char := ds.map Digit.char

/-- A number; the exponent always carries its sign. -/
def NumberLiteral.render (l : NumberLiteral) : List Char :=
  (if l.negative then ['-'] else [])
    ++ renderDigits l.whole
    ++ (match l.fraction with
      | some ds => '.' :: renderDigits ds
      | none => [])
    ++ (match l.exponent with
      | some (minus, ds) => 'e' :: (if minus then '-' else '+') :: renderDigits ds
      | none => [])

mutual

/-- A tree as text.  Faults, which no tree built by the library has, are not written. -/
def renderChars : Json → List Char
  | .absent | .malformed => []
  | .word w _ => w.spelling
  | .number l => l.render
  | .string l => l.render
  | .array [] _ => ['[', ']']
  | .array (v :: vs) _ => '[' :: renderChars v ++ renderItems vs
  | .object [] _ => ['\x7b', '\x7d']
  | .object ((k, v) :: ms) _ => '\x7b' :: k.render ++ ':' :: renderChars v ++ renderMembers ms

/-- The items after the first, and the end of the array. -/
def renderItems : List Json → List Char
  | [] => [']']
  | v :: vs => ',' :: renderChars v ++ renderItems vs

/-- The members after the first, and the end of the object. -/
def renderMembers : List (StringLiteral × Json) → List Char
  | [] => ['\x7d']
  | (k, v) :: ms => ',' :: k.render ++ ':' :: renderChars v ++ renderMembers ms

end

/-- A tree as text. -/
def render (j : Json) : String := String.ofList j.renderChars

end Json
end ModelPreview
