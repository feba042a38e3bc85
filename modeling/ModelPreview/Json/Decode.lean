import ModelPreview.Json.Render
import ModelPreview.Text.Quoted

/-!
# Decoding JSON

A decoder turns a tree into a value of some type or reports the first thing that is wrong with it,
walking the tree from left to right.  Structures are read from an object, whose members may come in
any order and among unknown ones, or from an array of their fields.

Main definitions:

- `DecodeError` and `DecodeError.message`: what can be wrong, and how it is reported.
- `Decoder`: the decoders of single values and their combinators.
- `Record`: the description of a structure, with `Record.decode`.
- `Json.decodeText`: decodes a whole text.
-/

namespace ModelPreview

/-- What was found where something else was expected. -/
inductive Found where
  /-- The word `null`. -/
  | null
  /-- A truth value. -/
  | bool (b : Bool)
  /-- An integer. -/
  | integer (n : Int)
  /-- A number that is not an integer. -/
  | real (negative : Bool) (magnitude : Binary.Magnitude)
  /-- A string. -/
  | text (s : String)
  /-- An array. -/
  | sequence
  /-- An object. -/
  | map
  deriving DecidableEq, Repr

/-- Why a text cannot be decoded. -/
inductive DecodeError where
  /-- The text is not JSON or goes on where it should end. -/
  | malformed
  /-- The text ends too early. -/
  | endOfInput
  /-- A value of another type was expected. -/
  | wrongType (found : Found) (expected : String)
  /-- An integer is out of range. -/
  | outOfRange (n : Int) (expected : String)
  /-- An array has too few items. -/
  | wrongLength (n : Nat) (expected : String)
  /-- A structure lacks a field. -/
  | missingField (name : String)
  /-- A field is given twice. -/
  | duplicateField (name : String)
  /-- A name is not among the alternatives. -/
  | unknownVariant (name : String) (expected : List String)
  /-- An alternative that has a body is given by its name alone. -/
  | bareVariant
  deriving DecidableEq, Repr

namespace Found

/-- How a found value is named in a message. -/
def describe : Found → String
  | null => "null"
  | bool b => s!"boolean `{b}`"
  | integer n => s!"integer `{n}`"
  | real s x => "floating point `" ++ String.ofList (Json.NumberLiteral.ofDouble s x).render ++ "`"
  | text s => "string " ++ Text.quoted s
  | sequence => "sequence"
  | map => "map"

/-- How a number is reported. -/
def ofNumber : Json.Number → Found
  | .natural n => integer n
  | .negative n => integer (-n)
  | .real s x => real s x

end Found

namespace DecodeError

/-- The list of alternatives in a message. -/
def alternatives : List String → String
  | [] => "there are no variants"
  | [a] => s!"expected `{a}`"
  | [a, b] => s!"expected `{a}` or `{b}`"
  | names => "expected one of " ++ String.intercalate ", " (names.map fun n => s!"`{n}`")

/-- The text of an error. -/
def message : DecodeError → String
  | malformed => "<syntax>"
  | endOfInput => "<eof>"
  | wrongType found expected => s!"invalid type: {found.describe}, expected {expected}"
  | outOfRange n expected => s!"invalid value: integer `{n}`, expected {expected}"
  | wrongLength n expected => s!"invalid length {n}, expected {expected}"
  | missingField name => s!"missing field `{name}`"
  | duplicateField name => s!"duplicate field `{name}`"
  | unknownVariant name expected => s!"unknown variant `{name}`, {alternatives expected}"
  | bareVariant => "invalid type: unit variant, expected struct variant"

/-- A fault of the text as a decoding error. -/
def ofFault : Json.Fault → DecodeError
  | .endOfInput => endOfInput
  | .malformed => malformed

end DecodeError

/-- A decoder reads a value of a type from a tree. -/
abbrev Decoder (α : Type) := Json → Except DecodeError α

namespace Json

/-- Report a fault of the text as a decoding error. -/
def orFault (x : Except Fault α) : Except DecodeError α := x.mapError DecodeError.ofFault

/-- The error of a value of the wrong type.  Scalars are read first and may be faulty themselves. -/
def unexpected (expected : String) : Json → DecodeError
  | .absent => .endOfInput
  | .malformed => .malformed
  | .word _ (some f) => .ofFault f
  | .word .null none => .wrongType .null expected
  | .word .true none => .wrongType (.bool Bool.true) expected
  | .word .false none => .wrongType (.bool Bool.false) expected
  | .number l =>
    match l.value with
    | .ok n => .wrongType (.ofNumber n) expected
    | .error f => .ofFault f
  | .string l =>
    match l.text with
    | .ok s => .wrongType (.text s) expected
    | .error f => .ofFault f
  | .array _ _ => .wrongType .sequence expected
  | .object _ _ => .wrongType .map expected

end Json

namespace Decoder

open Json (Fault orFault closing)

/-! ## Scalars -/

/-- A 32-bit number, rounded from what is written. -/
def single : Decoder Float32
  | .number l => do return (← orFault l.value).toSingle
  | j => .error (j.unexpected "f32")

/-- A 64-bit number, rounded from what is written. -/
def double : Decoder Float
  | .number l => do return (← orFault l.value).toDouble
  | j => .error (j.unexpected "f64")

/-- A natural number below `2 ^ 32`. -/
def word32 : Decoder UInt32
  | .number l => do
    match ← orFault l.value with
    | .natural n => if n < 0x100000000 then return UInt32.ofNat n else .error (.outOfRange n "u32")
    | .negative n => .error (.outOfRange (-n) "u32")
    | .real s x => .error (.wrongType (.real s x) "u32")
  | j => .error (j.unexpected "u32")

/-- A truth value. -/
def bool : Decoder Bool
  | .word .true none => .ok true
  | .word .false none => .ok false
  | j => .error (j.unexpected "a boolean")

/-- A text. -/
def text : Decoder String
  | .string l => orFault l.text
  | j => .error (j.unexpected "a string")

/-- The word `null` and nothing else. -/
def unit : Decoder Unit
  | .word .null none => .ok ()
  | j => .error (j.unexpected "unit")

/-- A value that may be left out by writing `null`. -/
def option (d : Decoder α) : Decoder (Option α)
  | .word .null none => .ok none
  | .word .null (some f) => .error (.ofFault f)
  | j => some <$> d j

/-! ## Arrays -/

/-- A list of any length. -/
def list (d : Decoder α) : Decoder (List α)
  | .array items f => do
    let values ← items.mapM d
    orFault (closing f)
    return values
  | j => .error (j.unexpected "a sequence")

/-- The next item of an array that has to have one. -/
def item (d : Decoder α) (expected : String) (index : Nat) (f : Option Fault) :
    List Json → Except DecodeError (α × List Json)
  | [] => do
    orFault (closing f)
    .error (.wrongLength index expected)
  | v :: vs => do return (← d v, vs)

/-- The end of an array that may have no further item. -/
def endItems (f : Option Fault) : List Json → Except DecodeError Unit
  | [] => orFault (closing f)
  | _ :: _ => .error .malformed

/-- An array of three items. -/
def triple (d : Decoder α) (make : α → α → α → β) : Decoder β
  | .array items f => do
    let expected := "an array of length 3"
    let (a, items) ← item d expected 0 f items
    let (b, items) ← item d expected 1 f items
    let (c, items) ← item d expected 2 f items
    endItems f items
    return make a b c
  | j => .error (j.unexpected "an array of length 3")

/-- An array of four items. -/
def quadruple (d : Decoder α) (make : α → α → α → α → β) : Decoder β
  | .array items f => do
    let expected := "an array of length 4"
    let (a, items) ← item d expected 0 f items
    let (b, items) ← item d expected 1 f items
    let (c, items) ← item d expected 2 f items
    let (e, items) ← item d expected 3 f items
    endItems f items
    return make a b c e
  | j => .error (j.unexpected "an array of length 4")

/-! ## Objects as maps -/

/-- An object read as a collection of entries; `put` adds one entry to what was read before. -/
def entries (d : Decoder α) (put : σ → String → α → σ) (start : σ) : Decoder σ
  | .object members f => do
    let result ← members.foldlM (fun s m => do
      let key ← orFault m.1.text
      return put s key (← d m.2)) start
    orFault (closing f)
    return result
  | j => .error (j.unexpected "a map")

/-! ## Alternatives -/

/-- One of several named alternatives: the name alone, or an object with the name as its only key.
The body of the alternative is handed on if there is one. -/
def tagged (names : List String) (body : String → Option Json → Except DecodeError α) : Decoder α
  | .absent => .error .endOfInput
  | .string l => do
    let name ← orFault l.text
    if name ∈ names then body name none else .error (.unknownVariant name names)
  | .object ((key, value) :: rest) f => do
    let name ← orFault key.text
    if name ∈ names then
      let result ← body name (some value)
      endItems f (rest.map (·.2))
      return result
    else .error (.unknownVariant name names)
  | _ => .error .malformed

end Decoder

/-! ## Structures -/

/-- One field of a structure that is being read into a draft of type `σ`. -/
structure Field (σ : Type) where
  /-- The key of the field. -/
  name : String
  /-- Whether the field may not be left out. -/
  required : Bool
  /-- Whether the draft already has the field. -/
  isSet : σ → Bool
  /-- Read the field into the draft. -/
  read : Json → σ → Except DecodeError σ

/-- A field kept in a slot of the draft. -/
def Field.slot (name : String) (required : Bool) (d : Decoder α) (get : σ → Option α)
    (set : σ → α → σ) : Field σ where
  name := name
  required := required
  isSet s := (get s).isSome
  read j s := do return set s (← d j)

/-- The value of a slot that has to be filled. -/
def Option.orMissing (name : String) : Option α → Except DecodeError α
  | some a => .ok a
  | none => .error (.missingField name)

/-- How a structure is read: its fields in order, the empty draft, and what a draft amounts to. -/
structure Record (σ α : Type) where
  /-- What the structure is called in messages. -/
  title : String
  /-- The fields in the order of declaration. -/
  fields : List (Field σ)
  /-- The draft before anything is read. -/
  start : σ
  /-- The structure made of a draft; the first missing field is reported. -/
  finish : σ → Except DecodeError α

namespace Record

open Json (Fault StringLiteral orFault closing)

variable {σ α : Type}

/-- How the expected count of fields is put in a message. -/
def lengthText (r : Record σ α) : String :=
  let n := r.fields.length
  s!"{r.title} with {n} element" ++ if n = 1 then "" else "s"

/-- Read one member of an object into the draft.  Unknown members are skipped. -/
def readMember (r : Record σ α) (s : σ) (m : StringLiteral × Json) : Except DecodeError σ := do
  let name ← orFault m.1.text
  match r.fields.find? (·.name = name) with
  | none => do
    orFault m.2.skip
    return s
  | some field => if field.isSet s then .error (.duplicateField name) else field.read m.2 s

/-- Read the items of an array into the fields in their order. -/
def readItems (r : Record σ α) (f : Option Fault) :
    List (Field σ) → Nat → List Json → σ → Except DecodeError σ
  | [], _, items, s => do
    Decoder.endItems f items
    return s
  | field :: fields, i, v :: items, s => do
    readItems r f fields (i + 1) items (← field.read v s)
  | field :: fields, i, [], s => do
    orFault (closing f)
    if field.required then .error (.wrongLength i r.lengthText)
    else readItems r f fields (i + 1) [] s

/-- The decoder of a structure. -/
def decode (r : Record σ α) : Decoder α
  | .object members f => do
    let s ← members.foldlM r.readMember r.start
    orFault (closing f)
    r.finish s
  | .array items f => do
    r.finish (← r.readItems f r.fields 0 items r.start)
  | j => .error (j.unexpected r.title)

end Record

/-- Decode a whole text; after the value only white space may follow. -/
def Json.decodeText (d : Decoder α) (text : String) : Except DecodeError α := do
  let (j, rest) := Json.ofTokens (Json.tokens text.toList)
  let a ← d j
  if rest.isEmpty then return a else .error .malformed

end ModelPreview
