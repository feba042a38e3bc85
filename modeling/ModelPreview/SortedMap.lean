/-!
# Maps with sorted keys

A finite map is kept as the list of its entries in strictly increasing key order, so that two maps
with the same entries are equal and iteration visits the keys in order.

Main results:

- `SortedMap.find?_insert_self` and `SortedMap.find?_insert_of_ne`: what a lookup sees after `insert`.
- `SortedMap.ext_entries`: a map is determined by its entries.
-/

namespace ModelPreview

/-- A finite map whose entries are listed in strictly increasing key order. -/
structure SortedMap (κ : Type u) (α : Type v) [LT κ] where
  /-- The entries in key order. -/
  entries : List (κ × α)
  /-- Keys increase strictly along the list. -/
  sorted : entries.Pairwise (fun a b => a.1 < b.1)

namespace SortedMap

variable {κ : Type u} {α : Type v} [LT κ]

/-- The map without entries. -/
def empty : SortedMap κ α := ⟨[], .nil⟩

instance : Inhabited (SortedMap κ α) := ⟨empty⟩

instance : EmptyCollection (SortedMap κ α) := ⟨empty⟩

theorem ext_entries {m n : SortedMap κ α} (h : m.entries = n.entries) : m = n := by
  cases m; cases n; cases h; rfl

instance [DecidableEq κ] [DecidableEq α] : DecidableEq (SortedMap κ α) := fun m n =>
  if h : m.entries = n.entries then isTrue (ext_entries h)
  else isFalse fun e => h (congrArg entries e)

/-- The number of entries. -/
def size (m : SortedMap κ α) : Nat := m.entries.length

/-- Whether the map has no entry. -/
def isEmpty (m : SortedMap κ α) : Bool := m.entries.isEmpty

/-- The keys in increasing order. -/
def keys (m : SortedMap κ α) : List κ := m.entries.map (·.1)

section Lookup

variable [DecidableEq κ]

/-- The value stored under a key. -/
def find? (m : SortedMap κ α) (k : κ) : Option α := m.entries.lookup k

/-- Whether a key has a value. -/
def contains (m : SortedMap κ α) (k : κ) : Bool := (m.find? k).isSome

end Lookup

/-! ## Updating -/

section Insert

variable [DecidableLT κ]

/-- Put one entry into a sorted list of entries, replacing the entry of the same key. -/
def insertEntry (k : κ) (a : α) : List (κ × α) → List (κ × α)
  | [] => [(k, a)]
  | (k', a') :: rest =>
    if k < k' then (k, a) :: (k', a') :: rest
    else if k' < k then (k', a') :: insertEntry k a rest
    else (k, a) :: rest

theorem mem_insertEntry {k : κ} {a : α} {l : List (κ × α)} {e : κ × α}
    (h : e ∈ insertEntry k a l) : e = (k, a) ∨ e ∈ l := by
  induction l with
  | nil => simpa [insertEntry] using h
  | cons x rest ih =>
    rw [insertEntry] at h
    split at h
    · simpa using h
    · split at h
      · rcases List.mem_cons.1 h with h | h
        · exact .inr (by simp [h])
        · rcases ih h with h | h
          · exact .inl h
          · exact .inr (by simp [h])
      · rcases List.mem_cons.1 h with h | h
        · exact .inl h
        · exact .inr (by simp [h])

variable [LE κ] [Std.IsLinearOrder κ] [Std.LawfulOrderLT κ]

theorem pairwise_insertEntry {k : κ} {a : α} {l : List (κ × α)}
    (h : l.Pairwise (fun a b => a.1 < b.1)) :
    (insertEntry k a l).Pairwise (fun a b => a.1 < b.1) := by
  induction l with
  | nil => simp [insertEntry]
  | cons x rest ih =>
    obtain ⟨hx, hrest⟩ := List.pairwise_cons.1 h
    rw [insertEntry]
    split
    · rename_i hk
      refine List.pairwise_cons.2 ⟨fun e he => ?_, h⟩
      rcases List.mem_cons.1 he with rfl | he
      · exact hk
      · exact Std.lt_trans hk (hx e he)
    · split
      · rename_i hk
        refine List.pairwise_cons.2 ⟨fun e he => ?_, ih hrest⟩
        rcases mem_insertEntry he with rfl | he
        · exact hk
        · exact hx e he
      · rename_i hk hk'
        have hkx : k = x.1 := Std.le_antisymm (Std.not_lt.1 hk') (Std.not_lt.1 hk)
        exact List.pairwise_cons.2 ⟨fun e he => by simpa [hkx] using hx e he, hrest⟩

/-- Store a value under a key, replacing an earlier one. -/
def insert (m : SortedMap κ α) (k : κ) (a : α) : SortedMap κ α :=
  ⟨insertEntry k a m.entries, pairwise_insertEntry m.sorted⟩

/-- The map with the given entries; of two entries with one key the later stays. -/
def ofList (l : List (κ × α)) : SortedMap κ α :=
  l.foldl (fun m e => m.insert e.1 e.2) empty

variable [DecidableEq κ]

@[simp]
theorem find?_insert_self (m : SortedMap κ α) (k : κ) (a : α) :
    (m.insert k a).find? k = some a := by
  change (insertEntry k a m.entries).lookup k = some a
  induction m.entries with
  | nil => exact List.lookup_cons_self
  | cons x rest ih =>
    obtain ⟨k', a'⟩ := x
    simp only [insertEntry]
    split
    · exact List.lookup_cons_self
    · split
      · rename_i h
        have hne : k ≠ k' := fun e => Std.lt_irrefl (e ▸ h)
        rw [List.lookup_cons, beq_eq_false_iff_ne.2 hne]
        exact ih
      · exact List.lookup_cons_self

theorem find?_insert_of_ne (m : SortedMap κ α) {k k' : κ} (a : α) (h : k' ≠ k) :
    (m.insert k a).find? k' = m.find? k' := by
  change (insertEntry k a m.entries).lookup k' = m.entries.lookup k'
  have hb : (k' == k) = false := beq_eq_false_iff_ne.2 h
  induction m.entries with
  | nil => simp [insertEntry, List.lookup_cons, hb]
  | cons x rest ih =>
    obtain ⟨k₁, a₁⟩ := x
    simp only [insertEntry]
    split
    · simp [List.lookup_cons, hb]
    · split
      · simp only [List.lookup_cons]
        split
        · rfl
        · exact ih
      · rename_i hk hk'
        have hkx : k = k₁ := Std.le_antisymm (Std.not_lt.1 hk') (Std.not_lt.1 hk)
        subst hkx
        simp [List.lookup_cons, hb]

end Insert

section Erase

variable [DecidableEq κ]

/-- Remove the entry of a key, if there is one. -/
def erase (m : SortedMap κ α) (k : κ) : SortedMap κ α :=
  ⟨m.entries.filter (fun e => e.1 ≠ k), m.sorted.filter _⟩

/-- Keep the entries that satisfy a test. -/
def filter (m : SortedMap κ α) (p : κ → α → Bool) : SortedMap κ α :=
  ⟨m.entries.filter (fun e => p e.1 e.2), m.sorted.filter _⟩

end Erase

/-- Replace every value, the keys staying as they are. -/
def mapValues (m : SortedMap κ α) (f : κ → α → β) : SortedMap κ β :=
  ⟨m.entries.map (fun e => (e.1, f e.1 e.2)), by
    rw [List.pairwise_map]; exact m.sorted⟩

end SortedMap
end ModelPreview
