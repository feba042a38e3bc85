import ModelPreview.Json.Token

/-!
# JSON trees

The tokens of a text are arranged in a tree.  The tree of a text that is not JSON holds the first
fault at the place where it stands: as a missing or malformed value, inside a literal, or at the
end of an array or object that is not closed.  Whoever walks the tree from left to right therefore
meets errors of structure and errors of content in the order of the text.

Main definitions:

- `Json`: the tree.
- `Json.ofTokens`: the tree of a list of tokens and the tokens left over.
- `Json.skip`: walks over a value that nobody asks for.
-/

namespace ModelPreview

/-- A value as it is written, with the first fault of its text. -/
inductive Json where
  /-- The text ends where a value should start. -/
  | absent
  /-- What stands here starts no value. -/
  | malformed
  /-- A word. -/
  | word (w : Json.Word) (fault : Option Json.Fault)
  /-- A number. -/
  | number (literal : Json.NumberLiteral)
  /-- A string. -/
  | string (literal : Json.StringLiteral)
  /-- An array with its items; the fault is set if it is not closed after them. -/
  | array (items : List Json) (fault : Option Json.Fault)
  /-- An object with its members; the fault is set if it is not closed after them. -/
  | object (members : List (Json.StringLiteral × Json)) (fault : Option Json.Fault)

namespace Json

instance : Inhabited Json := ⟨.absent⟩

/-! ## From tokens to trees -/

/-- The fault of a text that goes on with the given tokens where something else was expected. -/
def faultAt : List Token → Fault
  | [] => .endOfInput
  | _ :: _ => .malformed

mutual

/-- Read one value.  Every call takes a token, so the number of tokens bounds the depth. -/
def readValue : Nat → List Token → Json × List Token
  | 0, ts => (.absent, ts)
  | _ + 1, [] => (.absent, [])
  | n + 1, t :: ts =>
    match t with
    | .word w f => (.word w f, ts)
    | .number l => (.number l, ts)
    | .string l => (.string l, ts)
    | .openBracket =>
      match ts with
      | [] => (.array [] (some .endOfInput), [])
      | .closeBracket :: ts => (.array [] none, ts)
      | ts =>
        let (items, fault, ts) := readItems n ts
        (.array items fault, ts)
    | .openBrace =>
      match ts with
      | .closeBrace :: ts => (.object [] none, ts)
      | ts =>
        let (members, fault, ts) := readMembers n ts
        (.object members fault, ts)
    | .closeBrace | .closeBracket | .colon | .comma | .stray => (.malformed, t :: ts)

/-- Read the items of an array that is not empty. -/
def readItems : Nat → List Token → List Json × Option Fault × List Token
  | 0, ts => ([], some .endOfInput, ts)
  | n + 1, ts =>
    let (v, ts) := readValue n ts
    match ts with
    | .comma :: ts =>
      let (vs, fault, ts) := readItems n ts
      (v :: vs, fault, ts)
    | .closeBracket :: ts => ([v], none, ts)
    | ts => ([v], some (faultAt ts), ts)

/-- Read the members of an object that is not empty. -/
def readMembers : Nat → List Token → List (StringLiteral × Json) × Option Fault × List Token
  | 0, ts => ([], some .endOfInput, ts)
  | n + 1, .string k :: .colon :: ts =>
    let (v, ts) := readValue n ts
    match ts with
    | .comma :: ts =>
      let (ms, fault, ts) := readMembers n ts
      ((k, v) :: ms, fault, ts)
    | .closeBrace :: ts => ([(k, v)], none, ts)
    | ts => ([(k, v)], some (faultAt ts), ts)
  | _ + 1, .string k :: ts =>
    ([(k, if ts.isEmpty then .absent else .malformed)], some (faultAt ts), ts)
  | _ + 1, ts => ([(.broken (faultAt ts), .absent)], some (faultAt ts), ts)

end

/-- The tree of a list of tokens, and the tokens after it.  A value of `n` tokens takes at most
`2 * n` calls. -/
def ofTokens (ts : List Token) : Json × List Token := readValue (2 * ts.length + 1) ts

/-! ## Skipping -/

/-- The outcome of a place that may carry a fault. -/
def closing : Option Fault → Except Fault Unit
  | none => .ok ()
  | some f => .error f

mutual

/-- Walk over a value that is not used: it has to be grammatical, but neither the range of its
numbers nor the pairing of its surrogates is looked at. -/
def skip : Json → Except Fault Unit
  | .absent => .error .endOfInput
  | .malformed => .error .malformed
  | .word _ f => closing f
  | .number l => l.skip
  | .string l => l.skip
  | .array items f => do skipItems items; closing f
  | .object members f => do skipMembers members; closing f

/-- Walk over the items of an array. -/
def skipItems : List Json → Except Fault Unit
  | [] => .ok ()
  | v :: vs => do skip v; skipItems vs

/-- Walk over the members of an object. -/
def skipMembers : List (StringLiteral × Json) → Except Fault Unit
  | [] => .ok ()
  | (k, v) :: ms => do k.skip; skip v; skipMembers ms

end

/-! ## Building trees -/

/-- The tree of the word `null`. -/
def null : Json := .word .null none

/-- The tree of a truth value. -/
def bool (b : Bool) : Json := .word (if b then .true else .false) none

/-- The tree of a text. -/
def text (s : String) : Json := .string (.ofText s)

/-- The tree of a natural number. -/
def nat (n : Nat) : Json := .number (.ofNat n)

/-- The tree of a 32-bit value; infinities and NaN are written as `null`. -/
def single (x : Float32) : Json :=
  match NumberLiteral.ofSingle? x with
  | some l => .number l
  | none => null

/-- The tree of a list. -/
def list (vs : List Json) : Json := .array vs none

/-- The tree of an object with the given members. -/
def record (ms : List (String × Json)) : Json :=
  .object (ms.map fun m => (.ofText m.1, m.2)) none

/-! ## Looking into trees -/

/-- The value of a member of an object; of two members with one key the first. -/
def get? (key : String) : Json → Option Json
  | .object members _ =>
    (members.find? fun m => m.1.text.toOption = some key).map (·.2)
  | _ => none

/-- The items of an array. -/
def toList : Json → List Json
  | .array items _ => items
  | _ => []

/-- The members of an object under their keys. -/
def toMembers : Json → List (String × Json)
  | .object members _ => members.filterMap fun m => m.1.text.toOption.map (·, m.2)
  | _ => []

/-- The text of a string. -/
def toText? : Json → Option String
  | .string l => l.text.toOption
  | _ => none

/-- The number a literal stands for. -/
def toNumber? : Json → Option Number
  | .number l => l.value.toOption
  | _ => none

/-- The truth value of a word. -/
def toBool? : Json → Option Bool
  | .word .true _ => some true
  | .word .false _ => some false
  | _ => none

end Json
end ModelPreview
