import ModelPreview.SortedMap

/-!
# Sessions by panel

Every panel of the host has at most one session.  Sessions are visited in the order of their panels.
-/

namespace ModelPreview

/-- The number of a panel. -/
abbrev Panel := Nat

/-- How a panel is called. -/
def Panel.label (p : Panel) : String := s!"panel#{p}"

/-- The sessions of the open panels. -/
abbrev Registry (σ : Type u) := SortedMap Panel σ

namespace Registry

variable {σ : Type u}

/-- The session of a panel, created if there is none, and whether it was created. -/
def openOrReveal (r : Registry σ) (p : Panel) (new : σ) : Registry σ × σ × Bool :=
  match r.find? p with
  | some s => (r, s, false)
  | none => (r.insert p new, new, true)

/-- Change the session of a panel, if there is one. -/
def update (r : Registry σ) (p : Panel) (f : σ → σ) : Registry σ :=
  match r.find? p with
  | some s => r.insert p (f s)
  | none => r

/-- Remove the session of a panel; removing none is allowed. -/
def dispose (r : Registry σ) (p : Panel) : Registry σ × Option σ := (r.erase p, r.find? p)

end Registry
end ModelPreview
