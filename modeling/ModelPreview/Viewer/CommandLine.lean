import ModelPreview.Viewer.Config

/-!
# The command line

The arguments after the name of the program are pairs of a flag and its value.  Of a flag given
twice the later value counts, except for models, which are collected.

Main definitions:

- `parseWord32`: numbers on the command line.
- `CommandLine.parse`: the command line.
-/

namespace ModelPreview

/-- Why a text is no number. -/
inductive NumberError where
  /-- The text is empty. -/
  | empty
  /-- A character is no digit. -/
  | invalidDigit
  /-- The number does not fit. -/
  | tooLarge
  deriving DecidableEq, Repr

/-- The text of a number error. -/
def NumberError.message : NumberError → String
  | .empty => "cannot parse integer from empty string"
  | .invalidDigit => "invalid digit found in string"
  | .tooLarge => "number too large to fit in target type"

/-- Read digits behind a number already read; the first digit that makes it too large is reported
before anything behind it. -/
def parseDigits (n : Nat) : List Char → Except NumberError Nat
  | [] => .ok n
  | c :: cs =>
    match Json.digit? c with
    | none => .error .invalidDigit
    | some d => if 10 * n + d.val < 0x100000000 then parseDigits (10 * n + d.val) cs else .error .tooLarge

/-- The number a text stands for, possibly after a plus sign. -/
def parseWord32 (s : String) : Except NumberError UInt32 :=
  match s.toList with
  | [] => .error .empty
  | ['+'] => .error .invalidDigit
  | '+' :: cs => UInt32.ofNat <$> parseDigits 0 cs
  | cs => UInt32.ofNat <$> parseDigits 0 cs

/-- Why the command line is not understood. -/
inductive CommandLineError where
  /-- An argument is no flag. -/
  | unexpected (argument : String)
  /-- A flag has no value. -/
  | missingValue (flag : String)
  /-- A flag is not known. -/
  | unknownFlag (flag : String)
  /-- The value of a size is no number. -/
  | badNumber (what value : String) (cause : NumberError)
  deriving DecidableEq, Repr

namespace CommandLineError

/-- The text of the error. -/
def message : CommandLineError → String
  | unexpected argument =>
    s!"Unexpected argument '{argument}'. Use --model <file> to open a model."
  | missingValue flag => s!"Expected a value after '{flag}'"
  | unknownFlag flag =>
    s!"Unknown flag '{flag}'. Supported flags: --workspace, --config, --width, --height, --model."
  | badNumber what value _ => s!"Invalid {what} '{value}'"

/-- The error and its cause. -/
def chain : CommandLineError → List String
  | badNumber what value cause => [message (badNumber what value cause), cause.message]
  | e => [e.message]

end CommandLineError

/-- What the command line asks for. -/
structure CommandLine where
  /-- The workspace. -/
  workspace : Option String := none
  /-- The configuration file. -/
  config : Option String := none
  /-- The values that replace those of the configuration file. -/
  overrides : Overrides := {}
  deriving DecidableEq, Repr

namespace CommandLine

/-- Read the number of a size. -/
def size (what value : String) : Except CommandLineError UInt32 :=
  (parseWord32 value).mapError (.badNumber what value)

/-- Take note of a flag and its value. -/
def set (c : CommandLine) (flag value : String) : Except CommandLineError CommandLine :=
  match flag with
  | "--workspace" => .ok { c with workspace := some value }
  | "--config" => .ok { c with config := some value }
  | "--width" => do
    return { c with overrides := { c.overrides with width := some (← size "width" value) } }
  | "--height" => do
    return { c with overrides := { c.overrides with height := some (← size "height" value) } }
  | "--model" =>
    .ok { c with overrides := { c.overrides with documents := c.overrides.documents ++ [value] } }
  | _ => .error (.unknownFlag flag)

/-- Whether an argument has the form of a flag. -/
def isFlag (argument : String) : Bool := ['-', '-'].isPrefixOf argument.toList

/-- Read pairs of flags and values. -/
def parsePairs (c : CommandLine) : List String → Except CommandLineError CommandLine
  | [] => .ok c
  | [flag] => if isFlag flag then .error (.missingValue flag) else .error (.unexpected flag)
  | flag :: value :: rest => do
    if isFlag flag then parsePairs (← c.set flag value) rest else .error (.unexpected flag)

/-- Read the arguments, the first of which is the name of the program. -/
def parse (args : List String) : Except CommandLineError CommandLine := parsePairs {} (args.drop 1)

end CommandLine
end ModelPreview
