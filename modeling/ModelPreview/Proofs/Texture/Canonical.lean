import Mathlib
import ModelPreview.Proofs.Texture.Resolving

/-!
# Canonical references

A reference written with its namespace spelled out is read as the same reference again, although its
path may have colons of its own.  The address of a texture therefore depends on the reference only,
and not on how it was written or on how many slashes stand at the end of the root.

Main definitions:

- `TextureRef.resolve?`: the reference that a text stands for, with its address.

Main results:

- `TextureRef.parse?_toText`: what is written is read again.
- `TextureRef.parse?_canonical`: which texts are references, and what their addresses depend on.
-/

namespace ModelPreview

/-- Slashes at the end make no difference to a root that is trimmed. -/
theorem trimSlashes_append_slashes (root : String) (n : Nat) :
    trimSlashes (root ++ String.ofList (List.replicate n '/')) = trimSlashes root := by
  have hslashes : ∀ c ∈ List.replicate n '/', decide (c = '/') = true := by
    intro c hc
    rw [List.eq_of_mem_replicate hc]
    rfl
  rw [trimSlashes, trimSlashes, String.toList_append, String.toList_ofList, List.reverse_append,
    List.reverse_replicate, List.dropWhile_append_of_pos hslashes]

namespace TextureRef

/-- The reference that a text stands for and the address it has below a root. -/
def resolve? (raw root : String) : Option (TextureRef × String) :=
  (parse? raw).map fun t => (t, t.uri root)

theorem resolve?_append_slashes (raw root : String) (n : Nat) :
    resolve? raw (root ++ String.ofList (List.replicate n '/')) = resolve? raw root := by
  simp only [resolve?, uri, trimSlashes_append_slashes]

/-- The namespace of a reference has no colon; that of the default namespace is spelled without. -/
theorem ReadFrom.colon_notMem_space {raw : String} {t : TextureRef} (h : t.ReadFrom raw) :
    ':' ∉ t.space.toList := by
  rcases h.parts with ⟨-, rfl⟩ | ⟨hspace, -⟩
  · change ':' ∉ "minecraft".toList
    decide
  · exact hspace

/-- What stands for a reference is read as the same one after it has been written out in full: the
first colon is the one that was written. -/
theorem parse?_toText {raw : String} {t : TextureRef} (h : parse? raw = some t) :
    parse? t.toText = some t := by
  have hread := parse?_eq_some_iff.1 h
  exact parse?_eq_some_iff.2
    ⟨hread.space, hread.path, .inr ⟨hread.colon_notMem_space, rfl⟩⟩

/-- A text reads as a reference in one of two ways: it has no colon and is the whole path in the
default namespace, or the namespace is what stands in front of its first colon. -/
theorem readFrom_iff {raw : String} {t : TextureRef} :
    t.ReadFrom raw ↔
      ':' ∉ raw.toList ∧ raw ≠ "" ∧ t.space = "minecraft" ∧ t.path = raw ∨
      raw = t.space ++ ":" ++ t.path ∧ t.space ≠ "" ∧ ':' ∉ t.space.toList ∧ t.path ≠ "" := by
  obtain ⟨space, path⟩ := t
  constructor
  · rintro ⟨hspace, hpath, ⟨hcolon, ht⟩ | ⟨hcolon, hraw⟩⟩
    · obtain ⟨rfl, rfl⟩ := TextureRef.mk.inj ht
      exact .inl ⟨hcolon, hpath, rfl, rfl⟩
    · exact .inr ⟨hraw, hspace, hcolon, hpath⟩
  · rintro (⟨hcolon, hraw, rfl, rfl⟩ | ⟨hraw, hspace, hcolon, hpath⟩)
    · have hdefault : "minecraft" ≠ "" := by decide
      exact ⟨hdefault, hraw, .inl ⟨hcolon, rfl⟩⟩
    · exact ⟨hspace, hpath, .inr ⟨hcolon, hraw⟩⟩

/-- A text stands for a reference exactly if it is not empty and has no colon, or is a namespace
without colons, a colon and a path, neither of them empty.  Written out in full, the reference is read
as itself, and neither that nor slashes at the end of the root change what a text resolves to. -/
theorem parse?_canonical (raw : String) :
    (∀ t : TextureRef, parse? raw = some t ↔
      ':' ∉ raw.toList ∧ raw ≠ "" ∧ t.space = "minecraft" ∧ t.path = raw ∨
      raw = t.space ++ ":" ++ t.path ∧ t.space ≠ "" ∧ ':' ∉ t.space.toList ∧ t.path ≠ "") ∧
    (∀ t, parse? raw = some t → parse? t.toText = some t) ∧
    (∀ root n, resolve? raw (root ++ String.ofList (List.replicate n '/')) = resolve? raw root) ∧
    ∀ t root, parse? raw = some t → resolve? t.toText root = resolve? raw root := by
  refine ⟨fun t => parse?_eq_some_iff.trans readFrom_iff, fun t => parse?_toText,
    resolve?_append_slashes raw, ?_⟩
  intro t root h
  rw [resolve?, resolve?, h, parse?_toText h]

/-- Colons in the path stay in the path. -/
example : parse? "a:b:c" = some ⟨"a", "b:c"⟩ := by decide

end TextureRef

/-- The address of a texture of a model is the one its reference resolves to. -/
theorem Model.textureUri?_eq_resolve? (m : Model) (root texture : String) :
    m.textureUri? root texture =
      (m.lookupVariable texture).bind fun raw => (TextureRef.resolve? raw root).map (·.2) := by
  simp only [textureUri?, TextureRef.resolve?, Option.map_map, Option.map_bind]
  rfl

end ModelPreview
