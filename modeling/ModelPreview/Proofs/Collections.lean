import Mathlib
import ModelPreview.SortedMap

/-!
# Traces and sorted maps

Traces grow at their end.  What is said about an entry and what stands before and behind it is
therefore carried over by looking at which part of the trace the entry stands in.

A lookup in a sorted map finds exactly the entry of its list with the key asked for, because keys do
not repeat.  From this follows what a lookup sees after each operation on maps.

Main results:

- `split_append`: an entry of two traces in a row stands in the first or in the second of them.
- `SortedMap.find?_eq_some_iff`: a lookup finds the entries of the list and nothing else.
- `SortedMap.ext_find?` and `SortedMap.keys_eq_of_isSome_find?`: a map is determined by its lookups,
  and its keys by which of them find something.
- `SortedMap.find?_insert`, `SortedMap.find?_erase`, `SortedMap.find?_filter_eq_some_iff` and
  `SortedMap.find?_mapValues`: lookups after an operation.
- `SortedMap.ofList_entries`: a map is built again from its entries.
- `SortedMap.find?_ofList_of_mem`: a map built from entries with different keys finds each of them.
- `SortedMap.isSome_find?_ofList`: the keys of a map built from entries.
-/

namespace ModelPreview

/-! ## Positions in a trace -/

/-- An entry of two traces in a row stands in the first or in the second of them. -/
theorem split_append {α : Type} {es fs pre post : List α} {e : α}
    (h : es ++ fs = pre ++ e :: post) :
    (∃ mid, es = pre ++ e :: mid ∧ post = mid ++ fs) ∨
      ∃ mid, pre = es ++ mid ∧ fs = mid ++ e :: post := by
  rcases List.append_eq_append_iff.1 h with ⟨mid, hpre, hfs⟩ | ⟨mid, hes, hpost⟩
  · exact .inr ⟨mid, hpre, hfs⟩
  · cases mid with
    | nil => exact .inr ⟨[], by simpa using hes.symm, by simpa using hpost.symm⟩
    | cons e' rest =>
      obtain ⟨rfl, hrest⟩ := List.cons.inj hpost
      exact .inl ⟨rest, hes, hrest⟩

/-! ## Lookups in sorted maps -/

namespace SortedMap

variable {κ : Type u} {α : Type v} {β : Type w} [LT κ] [DecidableEq κ]

@[simp]
theorem find?_empty (k : κ) : (∅ : SortedMap κ α).find? k = none := rfl

theorem contains_eq_true_iff {m : SortedMap κ α} {k : κ} :
    m.contains k = true ↔ ∃ a, m.find? k = some a := by
  simp [contains, Option.isSome_iff_exists]

variable [LE κ] [Std.LawfulOrderLT κ]

/-- A lookup finds exactly the listed entries. -/
theorem find?_eq_some_iff {m : SortedMap κ α} {k : κ} {a : α} :
    m.find? k = some a ↔ (k, a) ∈ m.entries := by
  unfold find?
  rw [List.lookup_eq_some_iff]
  constructor
  · rintro ⟨front, back, hentries, -⟩
    simp [hentries]
  · intro hmem
    obtain ⟨front, back, hentries⟩ := List.append_of_mem hmem
    refine ⟨front, back, hentries, fun e he => ?_⟩
    -- Entries in front of it have smaller keys, so none of them hides it.
    have hsorted := m.sorted
    rw [hentries] at hsorted
    have hlt : e.1 < k := (List.pairwise_append.1 hsorted).2.2 e he (k, a) List.mem_cons_self
    have hne : k ≠ e.1 := fun heq => Std.lt_irrefl (heq ▸ hlt)
    simpa using hne

/-- The keys are those under which a lookup finds something. -/
theorem mem_keys_iff {m : SortedMap κ α} {k : κ} : k ∈ m.keys ↔ ∃ a, m.find? k = some a := by
  simp only [keys, List.mem_map, find?_eq_some_iff]
  constructor
  · rintro ⟨⟨k', a⟩, hmem, rfl⟩
    exact ⟨a, hmem⟩
  · rintro ⟨a, hmem⟩
    exact ⟨(k, a), hmem, rfl⟩

/-- Maps in which every lookup finds the same are equal. -/
theorem ext_find? {m n : SortedMap κ α} (h : ∀ k, m.find? k = n.find? k) : m = n := by
  have hasymm : Std.Antisymm fun e d : κ × α => e.1 < d.1 :=
    ⟨fun e d hlt hgt => absurd hgt (Std.not_gt_of_lt hlt)⟩
  have hirrefl : Std.Irrefl fun e d : κ × α => e.1 < d.1 := ⟨fun e => Std.lt_irrefl⟩
  apply ext_entries
  apply List.Pairwise.eq_of_mem_iff m.sorted n.sorted
  intro e
  rw [← find?_eq_some_iff, ← find?_eq_some_iff, h]

/-- Maps that know the same keys list them in the same way. -/
theorem keys_eq_of_isSome_find? {m : SortedMap κ α} {n : SortedMap κ β}
    (h : ∀ k, (m.find? k).isSome = (n.find? k).isSome) : m.keys = n.keys := by
  have hasymm : Std.Antisymm fun k k' : κ => k < k' :=
    ⟨fun k k' hlt hgt => absurd hgt (Std.not_gt_of_lt hlt)⟩
  have hirrefl : Std.Irrefl fun k k' : κ => k < k' := ⟨fun k => Std.lt_irrefl⟩
  apply List.Pairwise.eq_of_mem_iff (List.pairwise_map.2 m.sorted) (List.pairwise_map.2 n.sorted)
  intro k
  have hkeys : k ∈ m.keys ↔ k ∈ n.keys := by
    rw [mem_keys_iff, mem_keys_iff, ← Option.isSome_iff_exists, ← Option.isSome_iff_exists, h]
  exact hkeys

theorem find?_erase (m : SortedMap κ α) (k k' : κ) :
    (m.erase k).find? k' = if k' = k then none else m.find? k' := by
  apply Option.ext
  intro a
  rw [find?_eq_some_iff]
  split
  · rename_i heq
    simp [erase, heq]
  · rename_i hne
    simp [erase, hne, find?_eq_some_iff]

theorem erase_comm (m : SortedMap κ α) (k k' : κ) : (m.erase k).erase k' = (m.erase k').erase k := by
  apply ext_find?
  intro i
  rw [find?_erase, find?_erase, find?_erase, find?_erase]
  split_ifs <;> rfl

theorem find?_filter_eq_some_iff {m : SortedMap κ α} {test : κ → α → Bool} {k : κ} {a : α} :
    (m.filter test).find? k = some a ↔ m.find? k = some a ∧ test k a = true := by
  rw [find?_eq_some_iff, find?_eq_some_iff]
  simp [filter]

theorem find?_mapValues (m : SortedMap κ α) (f : κ → α → β) (k : κ) :
    (m.mapValues f).find? k = (m.find? k).map (f k) := by
  apply Option.ext
  intro b
  rw [find?_eq_some_iff, Option.map_eq_some_iff]
  simp only [mapValues, List.mem_map, Prod.mk.injEq, find?_eq_some_iff]
  constructor
  · rintro ⟨⟨k', a⟩, hmem, rfl, rfl⟩
    exact ⟨a, hmem, rfl⟩
  · rintro ⟨a, hmem, rfl⟩
    exact ⟨(k, a), hmem, rfl, rfl⟩

variable [Std.IsLinearOrder κ] [DecidableLT κ]

theorem find?_insert (m : SortedMap κ α) (k k' : κ) (a : α) :
    (m.insert k a).find? k' = if k' = k then some a else m.find? k' := by
  split
  · rename_i heq
    rw [heq, find?_insert_self]
  · rename_i hne
    exact find?_insert_of_ne m a hne

/-- Values stored under different keys may be stored in any order. -/
theorem insert_comm (m : SortedMap κ α) {k k' : κ} (a a' : α) (h : k ≠ k') :
    (m.insert k a).insert k' a' = (m.insert k' a').insert k a := by
  apply ext_find?
  intro i
  rw [find?_insert, find?_insert, find?_insert, find?_insert]
  by_cases hk : i = k
  · rw [if_neg (hk ▸ h), if_pos hk, if_pos hk]
  · rw [if_neg hk, if_neg hk]

/-! ## Rebuilding a map -/

omit [DecidableEq κ] in
/-- An entry with a key above all others goes to the end. -/
theorem insertEntry_of_forall_lt {l : List (κ × α)} {k : κ} {a : α} (h : ∀ e ∈ l, e.1 < k) :
    insertEntry k a l = l ++ [(k, a)] := by
  induction l with
  | nil => rfl
  | cons e rest ih =>
    have hlt : e.1 < k := h e List.mem_cons_self
    have hnot : ¬ k < e.1 := fun hgt => Std.lt_irrefl (Std.lt_trans hlt hgt)
    rw [insertEntry, if_neg hnot, if_pos hlt, ih fun e' he' => h e' (List.mem_cons_of_mem e he')]
    rfl

omit [DecidableEq κ] in
/-- Storing sorted entries one after another behind a map extends its list by them. -/
theorem entries_foldl_insert {l : List (κ × α)} (m : SortedMap κ α)
    (h : (m.entries ++ l).Pairwise fun a b => a.1 < b.1) :
    (l.foldl (fun m e => m.insert e.1 e.2) m).entries = m.entries ++ l := by
  induction l generalizing m with
  | nil => simp
  | cons e rest ih =>
    have hmax : ∀ e' ∈ m.entries, e'.1 < e.1 := fun e' he' =>
      (List.pairwise_append.1 h).2.2 e' he' e List.mem_cons_self
    have hentries : (m.insert e.1 e.2).entries = m.entries ++ [e] :=
      insertEntry_of_forall_lt hmax
    rw [List.foldl_cons, ih, hentries, List.append_assoc, List.singleton_append]
    rw [hentries, List.append_assoc, List.singleton_append]
    exact h

omit [DecidableEq κ] in
theorem ofList_entries (m : SortedMap κ α) : ofList m.entries = m := by
  apply ext_entries
  rw [ofList, entries_foldl_insert _ (by simpa [empty] using m.sorted)]
  rfl

/-! ## Building a map -/

theorem find?_foldl_insert_of_notMem {l : List (κ × α)} (m : SortedMap κ α) {k : κ}
    (h : k ∉ l.map (·.1)) : (l.foldl (fun m e => m.insert e.1 e.2) m).find? k = m.find? k := by
  induction l generalizing m with
  | nil => rfl
  | cons e rest ih =>
    rw [List.map_cons, List.mem_cons, not_or] at h
    rw [List.foldl_cons, ih _ h.2, find?_insert_of_ne _ _ h.1]

theorem find?_foldl_insert_of_mem {l : List (κ × α)} (m : SortedMap κ α) {k : κ} {a : α}
    (hkeys : (l.map (·.1)).Nodup) (hmem : (k, a) ∈ l) :
    (l.foldl (fun m e => m.insert e.1 e.2) m).find? k = some a := by
  induction l generalizing m with
  | nil => cases hmem
  | cons e rest ih =>
    rw [List.map_cons, List.nodup_cons] at hkeys
    rw [List.foldl_cons]
    rcases List.mem_cons.1 hmem with rfl | hmem
    · rw [find?_foldl_insert_of_notMem _ hkeys.1, find?_insert_self]
    · exact ih _ hkeys.2 hmem

theorem find?_ofList_of_mem {l : List (κ × α)} {k : κ} {a : α} (hkeys : (l.map (·.1)).Nodup)
    (hmem : (k, a) ∈ l) : (ofList l).find? k = some a :=
  find?_foldl_insert_of_mem empty hkeys hmem

theorem isSome_find?_foldl_insert (l : List (κ × α)) (m : SortedMap κ α) (k : κ) :
    ((l.foldl (fun m e => m.insert e.1 e.2) m).find? k).isSome = true ↔
      (m.find? k).isSome = true ∨ k ∈ l.map (·.1) := by
  induction l generalizing m with
  | nil => simp
  | cons e rest ih =>
    rw [List.foldl_cons, ih, find?_insert, List.map_cons, List.mem_cons]
    by_cases hk : k = e.1
    · simp [hk]
    · simp [hk]

/-- A map built from entries has their keys and no others. -/
theorem isSome_find?_ofList (l : List (κ × α)) (k : κ) :
    ((ofList l).find? k).isSome = true ↔ k ∈ l.map (·.1) := by
  rw [ofList, isSome_find?_foldl_insert]
  simp [empty, find?]

end SortedMap

end ModelPreview
