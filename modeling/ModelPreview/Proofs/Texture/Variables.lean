import Mathlib
import ModelPreview.Proofs.Texture.Resolving

/-!
# Chains of variables

Following the variables of a model one after another gives a sequence of texts, which ends at the
first text that is no variable or whose variable is unknown, and goes on forever in a cycle.  The
texture of a face is looked up by walking along this sequence for a bounded number of steps.

Main definitions:

- `chainText`: the sequence of texts.

Main results:

- `variableChain_iff`: the sequence ends at a text that is no variable.
- `chainText_ne_of_variableChain`: a sequence that ends does not repeat itself.
- `find?_ne_none_of_variableChain`: a sequence that ends has no unknown variable.
- `Model.lookupVariable_iff_chain`: what is found, and when nothing is.
-/

namespace ModelPreview

variable {table : SortedMap String String} {raw target : String} {i j k : Nat}

/-- The text after a number of variables, if it is defined. -/
def chainText (table : SortedMap String String) (raw : String) : Nat → Option String
  | 0 => some raw
  | i + 1 => (chainText table raw i).bind fun text => (variableName? text).bind table.find?

theorem chainText_succ_eq_some_iff {text : String} :
    chainText table raw (i + 1) = some text ↔
      ∃ name, chainText table raw i = some ("#" ++ name) ∧ table.find? name = some text := by
  simp only [chainText, Option.bind_eq_some_iff, variableName?_eq_some_iff]
  constructor
  · rintro ⟨_, hchain, name, rfl, hfind⟩
    exact ⟨name, hchain, hfind⟩
  · rintro ⟨name, hchain, hfind⟩
    exact ⟨"#" ++ name, hchain, name, rfl, hfind⟩

/-- The sequence goes on from each of its texts as it does from the start. -/
theorem chainText_add (i n : Nat) :
    chainText table raw (i + n) = (chainText table raw i).bind (chainText table · n) := by
  induction n with
  | zero => simp [chainText]
  | succ n ih =>
    rw [← Nat.add_assoc, chainText, ih, Option.bind_assoc]
    rfl

/-- Nothing comes after a text that is no variable. -/
theorem chainText_eq_none_of_lt (hend : chainText table raw k = some target)
    (htarget : ∀ name, target ≠ "#" ++ name) (hi : k < i) : chainText table raw i = none := by
  obtain ⟨n, rfl⟩ := Nat.exists_eq_add_of_le hi
  have hstop : chainText table raw (k + 1) = none := by
    rw [chainText, hend, Option.bind_some, variableName?_eq_none_iff.2 htarget]
    rfl
  rw [chainText_add, hstop]
  rfl

/-- A chain of variables is a sequence that ends at a text that is no variable. -/
theorem variableChain_iff : VariableChain table k raw target ↔
    chainText table raw k = some target ∧ ∀ name, target ≠ "#" ++ name := by
  induction k generalizing raw with
  | zero =>
    constructor
    · intro h
      cases h with
      | last _ hraw => exact ⟨rfl, hraw⟩
    · rintro ⟨hstart, htarget⟩
      cases hstart
      exact .last target htarget
  | succ k ih =>
    have hsplit : chainText table raw (1 + k) = _ := chainText_add 1 k
    rw [Nat.add_comm] at hsplit
    rw [hsplit]
    simp only [Option.bind_eq_some_iff, chainText_succ_eq_some_iff (i := 0)]
    constructor
    · intro h
      cases h with
      | @next _ _ name value _ hraw hvalue hchain =>
        obtain ⟨hend, htarget⟩ := ih.1 hchain
        exact ⟨⟨value, ⟨name, congrArg some hraw, hvalue⟩, hend⟩, htarget⟩
    · rintro ⟨⟨value, ⟨name, hraw, hvalue⟩, hend⟩, htarget⟩
      exact .next (Option.some.inj hraw) hvalue (ih.2 ⟨hend, htarget⟩)

/-- All texts in front of the last one are variables. -/
theorem exists_name_of_lt (hend : chainText table raw k = some target) (hi : i < k) :
    ∃ name, chainText table raw i = some ("#" ++ name) := by
  obtain ⟨n, rfl⟩ := Nat.exists_eq_add_of_le hi
  rw [chainText_add, Option.bind_eq_some_iff] at hend
  obtain ⟨text, hnext, -⟩ := hend
  obtain ⟨name, hname, -⟩ := chainText_succ_eq_some_iff.1 hnext
  exact ⟨name, hname⟩

/-- A text that comes again comes forever, so that a sequence that ends has no text twice. -/
theorem chainText_ne_of_variableChain {text : String} (hchain : VariableChain table k raw target)
    (hij : i < j) (hi : chainText table raw i = some text) : chainText table raw j ≠ some text := by
  obtain ⟨hend, htarget⟩ := variableChain_iff.1 hchain
  intro hj
  rcases Nat.lt_or_ge k i with hlt | hle
  · exact nomatch (chainText_eq_none_of_lt hend htarget hlt).symm.trans hi
  · -- As far behind the second place as the end is behind the first, the sequence ends again.
    have hagain : chainText table raw (j + (k - i)) = some target := by
      rw [chainText_add, hj, ← hi, ← chainText_add, Nat.add_sub_cancel' hle]
      exact hend
    exact nomatch (chainText_eq_none_of_lt hend htarget (by omega)).symm.trans hagain

/-- All variables of a sequence that ends are known. -/
theorem find?_ne_none_of_variableChain {name : String} (hchain : VariableChain table k raw target)
    (hi : chainText table raw i = some ("#" ++ name)) : table.find? name ≠ none := by
  obtain ⟨hend, htarget⟩ := variableChain_iff.1 hchain
  intro hfind
  have hstop : chainText table raw (i + 1) = none := by
    rw [Option.eq_none_iff_forall_ne_some]
    intro text htext
    obtain ⟨name', hname, hvalue⟩ := chainText_succ_eq_some_iff.1 htext
    obtain rfl : name = name' := by
      simpa using hi.symm.trans hname
    exact nomatch hfind.symm.trans hvalue
  -- The end comes neither behind the unknown variable nor in front of it.
  rcases Nat.lt_trichotomy k i with hlt | rfl | hgt
  · exact nomatch (chainText_eq_none_of_lt hend htarget hlt).symm.trans hi
  · exact htarget name (Option.some.inj (hend.symm.trans hi))
  · obtain ⟨n, rfl⟩ := Nat.exists_eq_add_of_le hgt
    rw [chainText_add, hstop] at hend
    cases hend

namespace Model

theorem lookupVariable_eq_some_iff {m : Model} :
    m.lookupVariable raw = some target ↔ ∃ k ≤ 16, VariableChain m.textures k raw target := by
  simp only [lookupVariable, followVariables_eq_some_iff, maxVariableDepth, Nat.lt_succ_iff]

/-- Nothing is found behind a text, if no chain with so few variables starts at it. -/
theorem lookupVariable_eq_none {m : Model}
    (h : ∀ k ≤ 16, ∀ target, ¬ VariableChain m.textures k raw target) :
    m.lookupVariable raw = none := by
  rw [Option.eq_none_iff_forall_ne_some]
  intro target htarget
  obtain ⟨k, hk, hchain⟩ := lookupVariable_eq_some_iff.1 htarget
  exact h k hk target hchain

/-- A text is found exactly if it is the first one in the sequence that is no variable, and no more
than sixteen variables come before it.  So nothing is found if a text comes twice, if a variable is
unknown, or if the first seventeen texts are variables. -/
theorem lookupVariable_iff_chain (m : Model) (raw : String) :
    (∀ target, m.lookupVariable raw = some target ↔
      ∃ k ≤ 16, (∀ i < k, ∃ name, chainText m.textures raw i = some ("#" ++ name)) ∧
        chainText m.textures raw k = some target ∧ ∀ name, target ≠ "#" ++ name) ∧
    (∀ i j text, i < j → chainText m.textures raw i = some text →
      chainText m.textures raw j = some text → m.lookupVariable raw = none) ∧
    (∀ i name, chainText m.textures raw i = some ("#" ++ name) → m.textures.find? name = none →
      m.lookupVariable raw = none) ∧
    ((∀ i ≤ 16, ∃ name, chainText m.textures raw i = some ("#" ++ name)) →
      m.lookupVariable raw = none) := by
  refine ⟨?found, ?cycle, ?unknown, ?deep⟩
  case found =>
    intro target
    rw [lookupVariable_eq_some_iff]
    refine exists_congr fun k => and_congr_right fun _ => ?_
    rw [variableChain_iff]
    exact ⟨fun h => ⟨fun i hi => exists_name_of_lt h.1 hi, h⟩, fun h => h.2⟩
  case cycle =>
    intro i j text hij hi hj
    exact lookupVariable_eq_none fun k _ target hchain =>
      chainText_ne_of_variableChain hchain hij hi hj
  case unknown =>
    intro i name hi hfind
    exact lookupVariable_eq_none fun k _ target hchain =>
      find?_ne_none_of_variableChain hchain hi hfind
  case deep =>
    intro hvariables
    apply lookupVariable_eq_none
    intro k hk target hchain
    obtain ⟨hend, htarget⟩ := variableChain_iff.1 hchain
    obtain ⟨name, hname⟩ := hvariables k hk
    exact htarget name (Option.some.inj (hend.symm.trans hname))

/-- A model with a variable that leads to itself by way of another one. -/
def cyclicModel : Model where
  elements := []
  textures := .ofList [("a", "#b"), ("b", "#a")]

/-- Sixteen variables are followed, seventeen are not, and neither are an unknown variable and one
that leads to itself. -/
theorem lookupVariable_deepModel :
    deepModel.lookupVariable "#b" = some "stone" ∧ deepModel.lookupVariable "#a" = none ∧
      deepModel.lookupVariable "#stone" = none ∧ cyclicModel.lookupVariable "#a" = none := by
  refine ⟨?_, ?_, ?_, ?_⟩
  · rw [(lookupVariable_iff_chain deepModel "#b").1]
    refine ⟨16, Nat.le_refl 16, fun i hi => ?_, by decide, ?_⟩
    · have hend : chainText deepModel.textures "#b" 16 = some "stone" := by decide
      exact exists_name_of_lt hend hi
    · exact fun name => variableName?_eq_none_iff.1 (by decide) name
  · apply (lookupVariable_iff_chain deepModel "#a").2.2.2
    intro i hi
    have hend : chainText deepModel.textures "#a" 17 = some "stone" := by decide
    exact exists_name_of_lt hend (Nat.lt_succ_of_le hi)
  · exact (lookupVariable_iff_chain deepModel "#stone").2.2.1 0 "stone" rfl (by decide)
  · exact (lookupVariable_iff_chain cyclicModel "#a").2.1 0 2 "#a" (by decide) rfl (by decide)

end Model
end ModelPreview
