import Mathlib
import ModelPreview.Texture.Resolution

/-!
# What resolving does to a model

The texture of a face is followed through the variables of the model until a text is reached that is
no variable, and this text is read as a reference.  Both are described here by relations that do not
look at how they are computed.  Resolving keeps a face exactly if the two lead somewhere; it looks at
the variables of the model that is given and not at the result, and it touches nothing but the faces
and the variables.

Main definitions:

- `VariableChain`: a text leads to another one through a number of variables.
- `TextureRef.ReadFrom`: what a text means as a reference.
- `Model.Designates`: the reference behind the texture of a face.

Main results:

- `followVariables_eq_some_iff` and `TextureRef.parse?_eq_some_iff`: the relations are computed.
- `Model.resolveFace?_eq_some_iff`: the faces that are kept, and what becomes of them.
- `Model.resolveFace?_eq_none_of_lt`: a face behind too many variables is dropped.
- `Model.resolve_drops_unresolvable`: the resolved model, face by face.
-/

namespace ModelPreview

/-! ## Variables -/

/-- Following `n` variables, one after another, leads from a text to one that is no variable. -/
inductive VariableChain (table : SortedMap String String) : Nat → String → String → Prop where
  /-- The text is no variable. -/
  | last (raw : String) (hraw : ∀ name, raw ≠ "#" ++ name) : VariableChain table 0 raw raw
  /-- The text is a variable, whose value is followed. -/
  | next {n : Nat} {raw name value target : String} (hraw : raw = "#" ++ name)
    (hvalue : table.find? name = some value) (hchain : VariableChain table n value target) :
    VariableChain table (n + 1) raw target

theorem variableName?_eq_some_iff {raw name : String} :
    variableName? raw = some name ↔ raw = "#" ++ name := by
  have hname : ("#" ++ name).toList = '#' :: name.toList := by simp
  rw [← String.toList_inj, hname]
  unfold variableName?
  split
  · rename_i cs hraw
    rw [hraw, Option.some.injEq, List.cons.injEq, eq_self, true_and, ← String.toList_inj,
      String.toList_ofList]
  · rename_i hraw
    exact iff_of_false (by simp) (hraw name.toList)

theorem variableName?_eq_none_iff {raw : String} :
    variableName? raw = none ↔ ∀ name, raw ≠ "#" ++ name := by
  rw [Option.eq_none_iff_forall_ne_some]
  exact forall_congr' fun name => not_congr variableName?_eq_some_iff

/-- Looking at no more than `n` texts finds the ends of the chains with fewer than `n` variables. -/
theorem followVariables_eq_some_iff {table : SortedMap String String} {n : Nat}
    {raw target : String} :
    followVariables table n raw = some target ↔ ∃ k < n, VariableChain table k raw target := by
  induction n generalizing raw with
  | zero => simp [followVariables]
  | succ n ih =>
    unfold followVariables
    cases hname : variableName? raw with
    | none =>
      have hlast := variableName?_eq_none_iff.1 hname
      constructor
      · intro h
        cases h
        exact ⟨0, Nat.succ_pos n, .last _ hlast⟩
      · rintro ⟨k, -, hchain⟩
        cases hchain with
        | last => rfl
        | next hraw => exact absurd hraw (hlast _)
    | some name =>
      have hraw := variableName?_eq_some_iff.1 hname
      simp only [Option.bind_eq_some_iff, ih]
      constructor
      · rintro ⟨value, hvalue, k, hk, hchain⟩
        exact ⟨k + 1, Nat.succ_lt_succ hk, .next hraw hvalue hchain⟩
      · rintro ⟨k, hk, hchain⟩
        cases hchain with
        | last _ hlast => exact absurd hraw (hlast name)
        | @next k _ name' value _ hraw' hvalue hchain =>
          have hsame : name = name' := by
            rw [variableName?_eq_some_iff.2 hraw'] at hname
            exact (Option.some.inj hname).symm
          exact ⟨value, hsame ▸ hvalue, k, Nat.lt_of_succ_lt_succ hk, hchain⟩

/-- Variables lead from a text to one text only, and there is one number of them. -/
theorem VariableChain.unique {table : SortedMap String String} {n n' : Nat}
    {raw target target' : String} (h : VariableChain table n raw target)
    (h' : VariableChain table n' raw target') : n = n' ∧ target = target' := by
  induction h generalizing n' target' with
  | last raw hlast =>
    cases h' with
    | last => exact ⟨rfl, rfl⟩
    | next hraw => exact absurd hraw (hlast _)
  | @next n raw name value target hraw hvalue hchain ih =>
    cases h' with
    | last _ hlast => exact absurd hraw (hlast name)
    | @next n' _ name' value' _ hraw' hvalue' hchain' =>
      have hname : name = name' :=
        Option.some.inj ((variableName?_eq_some_iff.2 hraw).symm.trans
          (variableName?_eq_some_iff.2 hraw'))
      obtain rfl := hname
      obtain rfl : value = value' := Option.some.inj (hvalue.symm.trans hvalue')
      obtain ⟨rfl, rfl⟩ := ih hchain'
      exact ⟨rfl, rfl⟩

/-! ## References -/

/-- A list is split at the first occurrence of an element: it does not occur in front of it. -/
theorem splitFirst_eq_some_iff {α : Type} [DecidableEq α] {a : α} {l front back : List α} :
    splitFirst a l = some (front, back) ↔ l = front ++ a :: back ∧ a ∉ front := by
  induction l generalizing front with
  | nil => simp [splitFirst]
  | cons b bs ih =>
    unfold splitFirst
    by_cases hb : b = a
    · rw [if_pos hb]
      cases front with
      | nil => simp [hb]
      | cons c front =>
        refine iff_of_false (by simp) ?_
        rintro ⟨hl, hfront⟩
        obtain ⟨rfl, -⟩ := List.cons.inj hl
        exact hfront (hb ▸ List.mem_cons_self)
    · rw [if_neg hb]
      cases front with
      | nil => simp [hb]
      | cons c front =>
        have htail : (splitFirst a bs).map (fun (l, r) => (b :: l, r)) = some (c :: front, back) ↔
            b = c ∧ splitFirst a bs = some (front, back) := by
          cases splitFirst a bs with
          | none => simp
          | some s => simp [Prod.ext_iff, and_assoc]
        rw [htail, ih, List.cons_append, List.cons.injEq, List.mem_cons, not_or, and_assoc]
        constructor
        · rintro ⟨rfl, hbs, hfront⟩
          exact ⟨rfl, hbs, Ne.symm hb, hfront⟩
        · rintro ⟨hbc, hbs, -, hfront⟩
          exact ⟨hbc, hbs, hfront⟩

theorem splitFirst_eq_none_iff {α : Type} [DecidableEq α] {a : α} {l : List α} :
    splitFirst a l = none ↔ a ∉ l := by
  rw [Option.eq_none_iff_forall_ne_some]
  constructor
  · intro h hmem
    obtain ⟨front, back, hl, hfront⟩ := List.eq_append_cons_of_mem hmem
    exact h (front, back) (splitFirst_eq_some_iff.2 ⟨hl, hfront⟩)
  · rintro h ⟨front, back⟩ hsplit
    obtain ⟨rfl, -⟩ := splitFirst_eq_some_iff.1 hsplit
    exact h (by simp)

namespace TextureRef

/-- What a text means as a reference: neither part is empty, and the namespace is what stands in front
of the first colon, or the default one if there is no colon. -/
structure ReadFrom (raw : String) (t : TextureRef) : Prop where
  space : t.space ≠ ""
  path : t.path ≠ ""
  parts : ':' ∉ raw.toList ∧ t = ⟨"minecraft", raw⟩ ∨
    ':' ∉ t.space.toList ∧ raw = t.space ++ ":" ++ t.path

/-- The parts of a text before it is known whether one of them is empty. -/
def split (raw : String) : TextureRef :=
  match splitFirst ':' raw.toList with
  | some (space, path) => ⟨String.ofList space, String.ofList path⟩
  | none => ⟨"minecraft", raw⟩

theorem parse?_eq_split (raw : String) :
    parse? raw = if (split raw).space = "" ∨ (split raw).path = "" then none else some (split raw) := by
  unfold parse? split
  cases splitFirst ':' raw.toList <;> rfl

theorem split_eq_iff {raw : String} {t : TextureRef} :
    split raw = t ↔ ':' ∉ raw.toList ∧ t = ⟨"minecraft", raw⟩ ∨
      ':' ∉ t.space.toList ∧ raw = t.space ++ ":" ++ t.path := by
  have hjoined : raw = t.space ++ ":" ++ t.path ↔
      raw.toList = t.space.toList ++ ':' :: t.path.toList := by
    rw [← String.toList_inj]
    simp
  unfold split
  cases hsplit : splitFirst ':' raw.toList with
  | none =>
    have hnone := splitFirst_eq_none_iff.1 hsplit
    have hno : ¬ (':' ∉ t.space.toList ∧ raw = t.space ++ ":" ++ t.path) := by
      rintro ⟨-, hraw⟩
      rw [hjoined.1 hraw] at hnone
      exact hnone (by simp)
    simp only [hnone, hno, not_false_eq_true, true_and, or_false]
    exact eq_comm
  | some parts =>
    obtain ⟨space, path⟩ := parts
    obtain ⟨hraw, hspace⟩ := splitFirst_eq_some_iff.1 hsplit
    have hmem : ':' ∈ raw.toList := by simp [hraw]
    simp only [hmem, not_true_eq_false, false_and, false_or]
    constructor
    · rintro rfl
      simpa [hjoined] using ⟨hspace, hraw⟩
    · rintro ⟨hfront, hraw'⟩
      have hagain := splitFirst_eq_some_iff.2 ⟨hjoined.1 hraw', hfront⟩
      rw [hsplit, Option.some.injEq, Prod.mk.injEq] at hagain
      simp [hagain]

theorem parse?_eq_some_iff {raw : String} {t : TextureRef} :
    parse? raw = some t ↔ t.ReadFrom raw := by
  have hread : t.ReadFrom raw ↔ t.space ≠ "" ∧ t.path ≠ "" ∧ split raw = t := by
    rw [split_eq_iff]
    exact ⟨fun h => ⟨h.space, h.path, h.parts⟩, fun h => ⟨h.1, h.2.1, h.2.2⟩⟩
  rw [hread, parse?_eq_split]
  constructor
  · intro h
    split at h
    · cases h
    · rename_i hparts
      cases h
      rw [not_or] at hparts
      exact ⟨hparts.1, hparts.2, rfl⟩
  · rintro ⟨hspace, hpath, rfl⟩
    rw [if_neg (not_or.2 ⟨hspace, hpath⟩)]

end TextureRef

/-- Trimming takes away all slashes at the end, and nothing else. -/
theorem trimSlashes_spec (s : String) :
    (∃ n, s = trimSlashes s ++ String.ofList (List.replicate n '/')) ∧
      (trimSlashes s).toList.getLast? ≠ some '/' := by
  let front := s.toList.reverse.dropWhile (· = '/')
  let slashes := s.toList.reverse.takeWhile (· = '/')
  have hslashes : slashes = List.replicate slashes.length '/' := by
    rw [List.eq_replicate_iff]
    refine ⟨rfl, fun c hc => ?_⟩
    simpa using List.mem_takeWhile_imp hc
  constructor
  · refine ⟨slashes.length, ?_⟩
    rw [← hslashes, ← String.toList_inj, trimSlashes, String.toList_append, String.toList_ofList,
      String.toList_ofList]
    calc s.toList
        = (slashes ++ front).reverse := by
          rw [List.takeWhile_append_dropWhile, List.reverse_reverse]
      _ = front.reverse ++ slashes.reverse := List.reverse_append
      _ = front.reverse ++ slashes := by
          rw [hslashes, List.reverse_replicate]
  · intro hlast
    rw [trimSlashes, String.toList_ofList, List.getLast?_reverse] at hlast
    have hfirst := List.head?_dropWhile_not (· = '/') s.toList.reverse
    rw [hlast] at hfirst
    simp at hfirst

/-! ## Faces -/

/-- The faces that are left are those kept at their sides. -/
theorem Faces.toList_filterMap (f : Faces) (visit : Direction → Face → Option Face) :
    (f.filterMap visit).toList =
      f.toList.filterMap fun e => (visit e.1 e.2).map (e.1, ·) := by
  unfold toList
  rw [List.filterMap_filterMap]
  congr 1
  funext d
  rw [Faces.get?_filterMap]
  cases f.get? d <;> rfl

namespace Model

/-- A texture stands for a reference: at most sixteen variables lead to a text that reads as it. -/
def Designates (m : Model) (texture : String) (t : TextureRef) : Prop :=
  ∃ k ≤ 16, ∃ raw, VariableChain m.textures k texture raw ∧ t.ReadFrom raw

variable {m : Model} {root : String}

theorem designates_iff {texture : String} {t : TextureRef} :
    m.Designates texture t ↔ (m.lookupVariable texture).bind TextureRef.parse? = some t := by
  simp only [Option.bind_eq_some_iff, lookupVariable, followVariables_eq_some_iff,
    TextureRef.parse?_eq_some_iff, maxVariableDepth, Designates]
  constructor
  · rintro ⟨k, hk, raw, hchain, hread⟩
    exact ⟨raw, ⟨k, Nat.lt_succ_of_le hk, hchain⟩, hread⟩
  · rintro ⟨raw, ⟨k, hk, hchain⟩, hread⟩
    exact ⟨k, Nat.le_of_lt_succ hk, raw, hchain, hread⟩

/-- A face is kept if its texture stands for a reference, and then only its texture is replaced. -/
theorem resolveFace?_eq_some_iff {f f' : Face} :
    m.resolveFace? root f = some f' ↔
      ∃ t, m.Designates f.texture t ∧ f' = { f with texture := t.uri root } := by
  rw [resolveFace?, textureUri?, Option.map_map, Option.map_eq_some_iff]
  simp only [← designates_iff, Function.comp_apply, eq_comm (b := f')]

/-- A face behind more variables than that is dropped, whatever stands behind them. -/
theorem resolveFace?_eq_none_of_lt {f : Face} {k : Nat} {raw : String} (hk : 16 < k)
    (hchain : VariableChain m.textures k f.texture raw) : m.resolveFace? root f = none := by
  rw [Option.eq_none_iff_forall_ne_some]
  intro f' hkept
  obtain ⟨t, ⟨k', hk', raw', hchain', -⟩, -⟩ := resolveFace?_eq_some_iff.1 hkept
  obtain ⟨rfl, -⟩ := hchain.unique hchain'
  omega

/-! ## Counting -/

theorem faceCount_eq_sum (m : Model) :
    m.faceCount = (m.elements.map fun e => e.faces.toList.length).sum := by
  rw [faceCount, List.length_flatMap]

theorem faceCount_resolve (m : Model) (root : String) :
    (m.resolve root).value.model.faceCount =
      (m.elements.map fun e =>
        e.faces.toList.countP fun f => (m.resolveFace? root f.2).isSome).sum := by
  rw [faceCount_eq_sum, resolve, List.map_map]
  congr 2
  funext e
  simp [Faces.toList_filterMap, List.length_filterMap_eq_countP]

theorem dropped_resolve (m : Model) (root : String) :
    (m.resolve root).value.dropped =
      (m.elements.map fun e =>
        e.faces.toList.countP fun f => (m.resolveFace? root f.2).isNone).sum := by
  have hfst := List.zipIdx_map_fst 0 m.elements
  simp only [resolve, unresolved, List.length_flatMap, List.length_map, ← List.countP_eq_length_filter]
  conv_rhs => rw [← hfst, List.map_map]
  rfl

/-- Every face is either dropped or kept. -/
theorem dropped_add_faceCount_resolve (m : Model) (root : String) :
    (m.resolve root).value.dropped + (m.resolve root).value.model.faceCount = m.faceCount := by
  rw [dropped_resolve, faceCount_resolve, faceCount_eq_sum, ← List.sum_map_add]
  congr 2
  funext e
  rw [List.length_eq_countP_add_countP fun f => (m.resolveFace? root f.2).isNone]
  congr 2
  funext f
  cases m.resolveFace? root f.2 <;> rfl

/-- Resolving keeps the elements of a model and where they are.  It keeps the face on a side of an
element exactly if there is one whose texture stands for a reference, and gives it the address of that
reference below the root without the slashes at its end; the rectangle of the face stays.  No variable
is left, and every face is counted as dropped or kept. -/
theorem resolve_drops_unresolvable (m : Model) (root : String) :
    ∃ base n, root = base ++ String.ofList (List.replicate n '/') ∧
      base.toList.getLast? ≠ some '/' ∧
      (m.resolve root).value.model.textures = ∅ ∧
      (m.resolve root).value.model.elements.length = m.elements.length ∧
      (∀ (i : Nat) (e : Element), m.elements[i]? = some e →
        ∃ e', (m.resolve root).value.model.elements[i]? = some e' ∧
          e'.fromCorner = e.fromCorner ∧ e'.toCorner = e.toCorner ∧ e'.rotation = e.rotation ∧
          ∀ (d : Direction) (f' : Face), e'.faces.get? d = some f' ↔
            ∃ f k raw t, e.faces.get? d = some f ∧
              k ≤ 16 ∧ VariableChain m.textures k f.texture raw ∧ TextureRef.ReadFrom raw t ∧
              f'.uv = f.uv ∧
              f'.texture = base ++ "/assets/" ++ t.space ++ "/textures/" ++ t.path ++ ".png") ∧
      (m.resolve root).value.dropped + (m.resolve root).value.model.faceCount = m.faceCount := by
  obtain ⟨⟨n, hroot⟩, hlast⟩ := trimSlashes_spec root
  refine ⟨trimSlashes root, n, hroot, hlast, rfl, List.length_map .., ?_,
    m.dropped_add_faceCount_resolve root⟩
  intro i e he
  refine ⟨{ e with faces := e.faces.filterMap fun _ f => m.resolveFace? root f }, ?_, rfl, rfl, rfl, ?_⟩
  · rw [resolve, List.getElem?_map, he]
    rfl
  · intro d f'
    simp only [Faces.get?_filterMap, Option.bind_eq_some_iff, resolveFace?_eq_some_iff]
    constructor
    · rintro ⟨f, hf, t, ⟨k, hk, raw, hchain, hread⟩, rfl⟩
      exact ⟨f, k, raw, t, hf, hk, hchain, hread, rfl, rfl⟩
    · rintro ⟨f, k, raw, t, hf, hk, hchain, hread, huv, htexture⟩
      refine ⟨f, hf, t, ⟨k, hk, raw, hchain, hread⟩, ?_⟩
      obtain ⟨texture, uv⟩ := f'
      subst huv htexture
      rfl

/-- A cuboid with a face behind seventeen variables. -/
def deepModel : Model where
  elements := [{
    fromCorner := ⟨0, 0, 0⟩
    toCorner := ⟨1, 1, 1⟩
    faces := { up := some ⟨"#a", none⟩ } }]
  textures := .ofList
    [("a", "#b"), ("b", "#c"), ("c", "#d"), ("d", "#e"), ("e", "#f"), ("f", "#g"), ("g", "#h"),
      ("h", "#i"), ("i", "#j"), ("j", "#k"), ("k", "#l"), ("l", "#m"), ("m", "#n"), ("n", "#o"),
      ("o", "#p"), ("p", "#q"), ("q", "stone")]

theorem chain_deepModel : VariableChain deepModel.textures 17 "#a" "stone" := by
  have hfound : followVariables deepModel.textures 18 "#a" = some "stone" := by decide
  have hmissed : followVariables deepModel.textures 17 "#a" = none := by decide
  obtain ⟨k, hk, hchain⟩ := followVariables_eq_some_iff.1 hfound
  obtain rfl : k = 17 := by
    by_contra hne
    have hshorter := (followVariables_eq_some_iff (n := 17)).2 ⟨k, by omega, hchain⟩
    exact nomatch hmissed.symm.trans hshorter
  exact hchain

/-- The face is dropped although its texture leads to a reference. -/
theorem deepModel_loses_face :
    ∃ e e' f raw t, deepModel.elements[0]? = some e ∧
      (deepModel.resolve "/p").value.model.elements[0]? = some e' ∧
      e.faces.get? .up = some f ∧ VariableChain deepModel.textures 17 f.texture raw ∧
      TextureRef.ReadFrom raw t ∧ e'.faces.get? .up = none := by
  have hdropped : deepModel.resolveFace? "/p" ⟨"#a", none⟩ = none :=
    resolveFace?_eq_none_of_lt (by omega) chain_deepModel
  have hread : TextureRef.ReadFrom "stone" ⟨"minecraft", "stone"⟩ :=
    TextureRef.parse?_eq_some_iff.1 (by decide)
  refine ⟨_, _, _, "stone", _, rfl, rfl, rfl, chain_deepModel, hread, ?_⟩
  rw [Faces.get?_filterMap]
  exact hdropped

end Model
end ModelPreview
