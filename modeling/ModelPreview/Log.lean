/-!
# Log lines

Operations that report what they do return their log lines together with their result.  The lines of
consecutive operations follow each other.

Main results:

- `Logged.value_bind` and `Logged.log_bind`: results and lines of a sequence.
-/

namespace ModelPreview

/-- How important a log line is. -/
inductive Level where
  /-- Something failed. -/
  | error
  /-- Something is not as it should be. -/
  | warn
  /-- Something worth telling happened. -/
  | info
  /-- Details. -/
  | debug
  deriving DecidableEq, Repr

/-- The name of a level. -/
def Level.name : Level → String
  | .error => "ERROR"
  | .warn => "WARN"
  | .info => "INFO"
  | .debug => "DEBUG"

/-- A line of the log. -/
structure LogLine where
  /-- How important it is. -/
  level : Level
  /-- What it says. -/
  text : String
  deriving DecidableEq, Repr

/-- A result together with the lines logged on the way. -/
structure Logged (α : Type u) where
  /-- The result. -/
  value : α
  /-- The lines in order. -/
  log : List LogLine

namespace Logged

instance : Monad Logged where
  pure a := ⟨a, []⟩
  bind x f := ⟨(f x.value).value, x.log ++ (f x.value).log⟩

@[simp]
theorem value_pure (a : α) : (pure a : Logged α).value = a := rfl

@[simp]
theorem log_pure (a : α) : (pure a : Logged α).log = [] := rfl

@[simp]
theorem value_bind (x : Logged α) (f : α → Logged β) : (x >>= f).value = (f x.value).value := rfl

@[simp]
theorem log_bind (x : Logged α) (f : α → Logged β) :
    (x >>= f).log = x.log ++ (f x.value).log := rfl

theorem ext {x y : Logged α} (hv : x.value = y.value) (hl : x.log = y.log) : x = y := by
  cases x; cases y; cases hv; cases hl; rfl

instance : LawfulMonad Logged :=
  LawfulMonad.mk' Logged
    (fun x => Logged.ext rfl (List.append_nil x.log))
    (fun _ _ => rfl)
    (fun _ _ _ => Logged.ext rfl (List.append_assoc _ _ _))

/-- Log one line. -/
def note (level : Level) (text : String) : Logged Unit := ⟨(), [⟨level, text⟩]⟩

/-- Log an error. -/
def error (text : String) : Logged Unit := note .error text

/-- Log a warning. -/
def warn (text : String) : Logged Unit := note .warn text

/-- Log an event. -/
def info (text : String) : Logged Unit := note .info text

/-- Log a detail. -/
def debug (text : String) : Logged Unit := note .debug text

@[simp]
theorem value_map (f : α → β) (x : Logged α) : (f <$> x).value = f x.value := rfl

end Logged
end ModelPreview
