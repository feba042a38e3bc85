import Mathlib
import ModelPreview.Geometry.Bounds
import ModelPreview.Proofs.Number.Order

/-!
# Boxes around points

An interval that has grown to contain some numbers contains all of them, and its ends are among them.
These two facts determine its ends up to the sign of zero, so the order of the numbers plays no part;
and they tell that the interval is empty only if there were no numbers.  Infinities are numbers like
any others here.  A box around points is such an interval along each axis.

Main definitions:

- `Interval.IsHull`: an interval contains some numbers and ends at two of them.
- `Bounds.IsHull`: a box does so along each axis.
- `Bounds.Contains` and `Bounds.EndsAt`: a point lies in a box, and a box ends at points.

Main results:

- `Interval.IsHull.insert`: an interval grows from one hull to the next.
- `Bounds.isHull_enclosing`: the box around points.
- `Bounds.IsHull.beq` and `Bounds.IsHull.isEmpty_iff`: the points determine their box, and only a box
  around no points is empty.
-/

namespace ModelPreview

open Single

/-! ## Intervals -/

namespace Interval

/-- An interval contains the numbers of a list, and it is empty or ends at two of them. -/
structure IsHull (i : Interval) (xs : List Float32) : Prop where
  min_le : ∀ x ∈ xs, i.min ≤ x
  le_max : ∀ x ∈ xs, x ≤ i.max
  ends : xs = [] ∧ i = empty ∨ i.min ∈ xs ∧ i.max ∈ xs

variable {i j : Interval} {xs ys : List Float32} {x : Float32}

theorem beq_iff : (i == j) = true ↔ (i.min == j.min) = true ∧ (i.max == j.max) = true := by
  change (i.min == j.min && i.max == j.max) = true ↔ _
  rw [Bool.and_eq_true]

theorem isHull_empty : empty.IsHull [] := ⟨nofun, nofun, .inl ⟨rfl, rfl⟩⟩

/-- An interval that grows to contain one more number ends at old ends or at this number. -/
theorem IsHull.insert (h : i.IsHull xs) (hxs : ∀ y ∈ xs, y.isNaN = false) (hx : x.isNaN = false) :
    (i.insert x).IsHull (xs ++ [x]) := by
  rcases h.ends with ⟨rfl, rfl⟩ | ⟨hmin, hmax⟩
  · have hpoint : empty.insert x = ⟨x, x⟩ := by
      rw [Interval.insert, mk.injEq]
      exact ⟨least_infinity hx, greatest_neg_infinity hx⟩
    have hself := Single.le_refl hx
    rw [hpoint]
    exact ⟨by simpa using hself, by simpa using hself, .inr (by simp)⟩
  · have hlow := hxs _ hmin
    have hhigh := hxs _ hmax
    refine ⟨?_, ?_, .inr ⟨?_, ?_⟩⟩
    · intro y hy
      rcases List.mem_append.1 hy with hy | hy
      · exact Single.le_trans (isNaN_least hlow hx) hlow (hxs y hy) (least_le_left hlow hx)
          (h.min_le y hy)
      · rw [List.mem_singleton.1 hy]
        exact least_le_right hlow hx
    · intro y hy
      rcases List.mem_append.1 hy with hy | hy
      · exact Single.le_trans (hxs y hy) hhigh (isNaN_greatest hhigh hx) (h.le_max y hy)
          (le_greatest_left hhigh hx)
      · rw [List.mem_singleton.1 hy]
        exact le_greatest_right hhigh hx
    · change least i.min x ∈ xs ++ [x]
      rcases least_eq_or i.min x with heq | heq <;> simp [heq, hmin]
    · change greatest i.max x ∈ xs ++ [x]
      rcases greatest_eq_or i.max x with heq | heq <;> simp [heq, hmax]

/-- Two hulls of the same numbers have the same ends. -/
theorem IsHull.beq (hi : i.IsHull xs) (hj : j.IsHull ys) (hxs : ∀ x ∈ xs, x.isNaN = false)
    (h : ∀ x, x ∈ xs ↔ x ∈ ys) : (i == j) = true := by
  rw [beq_iff]
  rcases hi.ends with ⟨rfl, rfl⟩ | ⟨hmin, hmax⟩
  · rcases hj.ends with ⟨-, rfl⟩ | ⟨hmin, -⟩
    · exact ⟨rfl, rfl⟩
    · cases (h _).2 hmin
  · rcases hj.ends with ⟨rfl, -⟩ | ⟨hmin', hmax'⟩
    · cases (h _).1 hmin
    · have hminNumber := hxs _ hmin
      have hmaxNumber := hxs _ hmax
      have hminNumber' := hxs _ ((h _).2 hmin')
      have hmaxNumber' := hxs _ ((h _).2 hmax')
      exact ⟨beq_of_le_of_le hminNumber hminNumber' (hi.min_le _ ((h _).2 hmin'))
          (hj.min_le _ ((h _).1 hmin)),
        beq_of_le_of_le hmaxNumber hmaxNumber' (hj.le_max _ ((h _).1 hmax))
          (hi.le_max _ ((h _).2 hmax'))⟩

theorem IsHull.mem_ends (h : i.IsHull xs) (hxs : xs ≠ []) : i.min ∈ xs ∧ i.max ∈ xs :=
  h.ends.resolve_left fun hempty => hxs hempty.1

/-- Only the hull of no numbers is empty. -/
theorem IsHull.isEmpty_iff (h : i.IsHull xs) (hxs : ∀ x ∈ xs, x.isNaN = false) :
    i.isEmpty = true ↔ xs = [] := by
  rcases h.ends with ⟨rfl, rfl⟩ | ⟨hmin, hmax⟩
  · exact iff_of_true rfl rfl
  · refine iff_of_false ?_ (List.ne_nil_of_mem hmin)
    rw [isEmpty, decide_eq_true_iff]
    exact not_lt_of_le (hxs _ hmin) (hxs _ hmax) (h.min_le _ hmax)

end Interval

/-! ## Boxes -/

/-- No coordinate of a point is a NaN. -/
structure Vec3.IsNumber (p : Vec3 Float32) : Prop where
  x : p.x.isNaN = false
  y : p.y.isNaN = false
  z : p.z.isNaN = false

instance (p : Vec3 Float32) : Decidable p.IsNumber :=
  decidable_of_iff (p.x.isNaN = false ∧ p.y.isNaN = false ∧ p.z.isNaN = false)
    ⟨fun h => ⟨h.1, h.2.1, h.2.2⟩, fun h => ⟨h.x, h.y, h.z⟩⟩

namespace Bounds

/-- A point lies in a box. -/
structure Contains (b : Bounds) (p : Vec3 Float32) : Prop where
  x : b.x.min ≤ p.x ∧ p.x ≤ b.x.max
  y : b.y.min ≤ p.y ∧ p.y ≤ b.y.max
  z : b.z.min ≤ p.z ∧ p.z ≤ b.z.max

/-- Each of the six ends of a box is a coordinate of some point. -/
structure EndsAt (b : Bounds) (points : List (Vec3 Float32)) : Prop where
  x : (∃ p ∈ points, p.x = b.x.min) ∧ ∃ p ∈ points, p.x = b.x.max
  y : (∃ p ∈ points, p.y = b.y.min) ∧ ∃ p ∈ points, p.y = b.y.max
  z : (∃ p ∈ points, p.z = b.z.min) ∧ ∃ p ∈ points, p.z = b.z.max

/-- A box is the hull of points along each axis. -/
structure IsHull (b : Bounds) (points : List (Vec3 Float32)) : Prop where
  x : b.x.IsHull (points.map (·.x))
  y : b.y.IsHull (points.map (·.y))
  z : b.z.IsHull (points.map (·.z))

variable {b c : Bounds} {points points' : List (Vec3 Float32)} {p : Vec3 Float32}

theorem beq_iff :
    (b == c) = true ↔ (b.x == c.x) = true ∧ (b.y == c.y) = true ∧ (b.z == c.z) = true := by
  change (b.x == c.x && b.y == c.y && b.z == c.z) = true ↔ _
  rw [Bool.and_eq_true, Bool.and_eq_true, and_assoc]

theorem isHull_empty : empty.IsHull [] :=
  ⟨Interval.isHull_empty, Interval.isHull_empty, Interval.isHull_empty⟩

theorem IsHull.contains (h : b.IsHull points) (hp : p ∈ points) : b.Contains p where
  x := ⟨h.x.min_le _ (List.mem_map_of_mem hp), h.x.le_max _ (List.mem_map_of_mem hp)⟩
  y := ⟨h.y.min_le _ (List.mem_map_of_mem hp), h.y.le_max _ (List.mem_map_of_mem hp)⟩
  z := ⟨h.z.min_le _ (List.mem_map_of_mem hp), h.z.le_max _ (List.mem_map_of_mem hp)⟩

theorem IsHull.endsAt (h : b.IsHull points) (hpoints : points ≠ []) : b.EndsAt points where
  x := (h.x.mem_ends (List.map_eq_nil_iff.not.2 hpoints)).imp List.mem_map.1 List.mem_map.1
  y := (h.y.mem_ends (List.map_eq_nil_iff.not.2 hpoints)).imp List.mem_map.1 List.mem_map.1
  z := (h.z.mem_ends (List.map_eq_nil_iff.not.2 hpoints)).imp List.mem_map.1 List.mem_map.1

section

variable (hnumbers : ∀ p ∈ points, p.IsNumber)

include hnumbers

theorem isNaN_x : ∀ x ∈ points.map (·.x), x.isNaN = false :=
  List.forall_mem_map.2 fun p hp => (hnumbers p hp).x

theorem isNaN_y : ∀ y ∈ points.map (·.y), y.isNaN = false :=
  List.forall_mem_map.2 fun p hp => (hnumbers p hp).y

theorem isNaN_z : ∀ z ∈ points.map (·.z), z.isNaN = false :=
  List.forall_mem_map.2 fun p hp => (hnumbers p hp).z

theorem IsHull.insert (h : b.IsHull points) (hp : p.IsNumber) :
    (b.insert p).IsHull (points ++ [p]) := by
  refine ⟨?_, ?_, ?_⟩ <;> rw [List.map_append]
  · exact h.x.insert (isNaN_x hnumbers) hp.x
  · exact h.y.insert (isNaN_y hnumbers) hp.y
  · exact h.z.insert (isNaN_z hnumbers) hp.z

/-- The box around points is their hull. -/
theorem isHull_enclosing : (enclosing points).IsHull points := by
  induction points using List.reverseRecOn with
  | nil => exact isHull_empty
  | append_singleton points p ih =>
    have hfront : ∀ q ∈ points, q.IsNumber := fun q hq => hnumbers q (List.mem_append_left _ hq)
    have hlast : p.IsNumber := hnumbers p (List.mem_append_right _ (List.mem_singleton_self p))
    rw [enclosing_append]
    exact (ih hfront).insert hfront hlast

/-- Two hulls of the same points are the same box. -/
theorem IsHull.beq (hb : b.IsHull points) (hc : c.IsHull points') (h : points.Perm points') :
    (b == c) = true := by
  rw [beq_iff]
  exact ⟨hb.x.beq hc.x (isNaN_x hnumbers) fun _ => (h.map _).mem_iff,
    hb.y.beq hc.y (isNaN_y hnumbers) fun _ => (h.map _).mem_iff,
    hb.z.beq hc.z (isNaN_z hnumbers) fun _ => (h.map _).mem_iff⟩

/-- Only the hull of no points is empty. -/
theorem IsHull.isEmpty_iff (h : b.IsHull points) : b.isEmpty = true ↔ points = [] := by
  rw [isEmpty, Bool.or_eq_true, Bool.or_eq_true, h.x.isEmpty_iff (isNaN_x hnumbers),
    h.y.isEmpty_iff (isNaN_y hnumbers), h.z.isEmpty_iff (isNaN_z hnumbers), List.map_eq_nil_iff,
    List.map_eq_nil_iff, List.map_eq_nil_iff, or_self, or_self]

end

end Bounds
end ModelPreview
