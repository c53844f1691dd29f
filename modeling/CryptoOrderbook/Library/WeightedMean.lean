import Mathlib.Algebra.BigOperators.Ring.List
import Mathlib.Algebra.Order.BigOperators.Group.List
import Mathlib.Algebra.Order.Field.Basic
import Mathlib.LinearAlgebra.AffineSpace.AffineMap
import Mathlib.Tactic.Linarith
import Mathlib.Tactic.Ring

/-!
# Shares and weighted means

The share of one part in a total of two lies strictly between zero and one
when both parts are positive, and moves with either part.  The point that
share of the way between two values is a point of `AffineMap.lineMap`.  The
weighted mean of finitely many items of positive weight lies between any two
bounds of their values and reaches a bound only when every value is at it.
-/

namespace CryptoOrderbook.Library

universe u v

variable {K : Type u} [Field K] [LinearOrder K] [IsStrictOrderedRing K]

/-! ## The share of a part -/

/-- The share of one part in the total of two. -/
def share (part rest : K) : K :=
  part / (part + rest)

section Share

variable {part rest : K}

theorem share_nonneg (partNonneg : 0 ≤ part) (restNonneg : 0 ≤ rest) :
    0 ≤ share part rest :=
  div_nonneg partNonneg (add_nonneg partNonneg restNonneg)

theorem share_le_one (partNonneg : 0 ≤ part) (restNonneg : 0 ≤ rest) :
    share part rest ≤ 1 :=
  div_le_one_of_le₀ (le_add_of_nonneg_right restNonneg)
    (add_nonneg partNonneg restNonneg)

theorem share_pos (partPos : 0 < part) (restNonneg : 0 ≤ rest) :
    0 < share part rest :=
  div_pos partPos (add_pos_of_pos_of_nonneg partPos restNonneg)

theorem share_lt_one (partNonneg : 0 ≤ part) (restPos : 0 < rest) :
    share part rest < 1 :=
  (div_lt_one (add_pos_of_nonneg_of_pos partNonneg restPos)).mpr
    (lt_add_of_pos_right part restPos)

omit [LinearOrder K] [IsStrictOrderedRing K] in
theorem share_eq_zero_iff (total : part + rest ≠ 0) :
    share part rest = 0 ↔ part = 0 := by
  rw [share, div_eq_zero_iff, or_iff_left total]

theorem share_eq_one_iff (total : part + rest ≠ 0) :
    share part rest = 1 ↔ rest = 0 := by
  rw [share, div_eq_one_iff_eq total, left_eq_add]

theorem share_eq_half_iff (total : part + rest ≠ 0) :
    share part rest = 1 / 2 ↔ part = rest := by
  rw [share, div_eq_div_iff total two_ne_zero]
  constructor
  · intro balanced
    linarith
  · intro same
    rw [same]
    ring

theorem half_lt_share_iff (total : 0 < part + rest) :
    1 / 2 < share part rest ↔ rest < part := by
  rw [share, lt_div_iff₀ total]
  constructor
  · intro more
    linarith
  · intro more
    linarith

/-- A greater part has the greater share beside the same rest. -/
theorem share_lt_share_of_part
    {more : K} (partNonneg : 0 ≤ part) (restPos : 0 < rest)
    (greater : part < more) :
    share part rest < share more rest := by
  have total : 0 < part + rest := add_pos_of_nonneg_of_pos partNonneg restPos
  have moreTotal : 0 < more + rest := by linarith
  rw [share, share, div_lt_div_iff₀ total moreTotal]
  have gained := mul_lt_mul_of_pos_right greater restPos
  linarith [mul_comm part more]

/-- Beside a greater rest the same part has a smaller share. -/
theorem share_lt_share_of_rest
    {more : K} (partPos : 0 < part) (restNonneg : 0 ≤ rest)
    (greater : rest < more) :
    share part more < share part rest :=
  div_lt_div_of_pos_left partPos
    (add_pos_of_pos_of_nonneg partPos restNonneg) (by linarith)

end Share

/-- The point a share of the way from one value to another. -/
def along (first second part : K) : K :=
  first + (second - first) * part

omit [LinearOrder K] [IsStrictOrderedRing K] in
theorem along_eq_lineMap (first second part : K) :
    along first second part = AffineMap.lineMap first second part := by
  rw [AffineMap.lineMap_apply_ring', along, add_comm, mul_comm]

theorem along_half (first second : K) :
    along first second (1 / 2) = (first + second) / 2 := by
  rw [along]
  ring

/-! ## Weighted means -/

variable {Item : Type v} {weight amount : Item → K} {items : List Item}

/-- The weights of the items together. -/
def totalWeight (weight : Item → K) (items : List Item) : K :=
  (items.map weight).sum

/-- The weighted amounts of the items together. -/
def weightedSum (weight amount : Item → K) (items : List Item) : K :=
  (items.map fun item => amount item * weight item).sum

/-- The mean of the amounts in proportion to the weights. -/
def weightedMean (weight amount : Item → K) (items : List Item) : K :=
  weightedSum weight amount items / totalWeight weight items

theorem totalWeight_pos
    (positive : ∀ item ∈ items, 0 < weight item) (nonempty : items ≠ []) :
    0 < totalWeight weight items := by
  apply List.sum_pos
  · intro part member
    rcases List.mem_map.mp member with ⟨item, listed, rfl⟩
    exact positive item listed
  · simpa using nonempty

omit [LinearOrder K] [IsStrictOrderedRing K] in
theorem weightedSum_const (bound : K) :
    weightedSum weight (fun _ => bound) items =
      bound * totalWeight weight items :=
  List.sum_map_mul_left ..

omit [LinearOrder K] [IsStrictOrderedRing K] in
theorem weightedSum_neg :
    weightedSum weight (fun item => -amount item) items =
      -weightedSum weight amount items := by
  induction items with
  | nil => simp [weightedSum]
  | cons item rest induction =>
      simp only [weightedSum, List.map_cons, List.sum_cons] at induction ⊢
      rw [induction]
      ring

/-- The mean is at most any upper bound of the amounts. -/
theorem weightedMean_le
    {bound : K} (positive : ∀ item ∈ items, 0 < weight item)
    (nonempty : items ≠ []) (below : ∀ item ∈ items, amount item ≤ bound) :
    weightedMean weight amount items ≤ bound := by
  rw [weightedMean, div_le_iff₀ (totalWeight_pos positive nonempty),
    ← weightedSum_const]
  apply List.sum_le_sum
  intro item member
  exact mul_le_mul_of_nonneg_right (below item member)
    (positive item member).le

/-- The mean reaches an upper bound only when every amount does. -/
theorem eq_of_weightedMean_eq
    {bound : K} (positive : ∀ item ∈ items, 0 < weight item)
    (below : ∀ item ∈ items, amount item ≤ bound)
    (reached : weightedMean weight amount items = bound) :
    ∀ item ∈ items, amount item = bound := by
  intro item member
  by_contra different
  have total := totalWeight_pos positive (List.ne_nil_of_mem member)
  have less : weightedSum weight amount items <
      weightedSum weight (fun _ => bound) items := by
    apply List.sum_lt_sum
    · intro other listed
      exact mul_le_mul_of_nonneg_right (below other listed)
        (positive other listed).le
    · refine ⟨item, member, ?_⟩
      exact mul_lt_mul_of_pos_right
        (lt_of_le_of_ne (below item member) different)
        (positive item member)
  rw [weightedMean, div_eq_iff total.ne', ← weightedSum_const] at reached
  exact absurd reached less.ne

omit [LinearOrder K] [IsStrictOrderedRing K] in
theorem weightedMean_neg :
    weightedMean weight (fun item => -amount item) items =
      -weightedMean weight amount items := by
  rw [weightedMean, weightedMean, weightedSum_neg, neg_div]

/-- The mean is at least any lower bound of the amounts. -/
theorem le_weightedMean
    {bound : K} (positive : ∀ item ∈ items, 0 < weight item)
    (nonempty : items ≠ []) (above : ∀ item ∈ items, bound ≤ amount item) :
    bound ≤ weightedMean weight amount items := by
  have mirrored : weightedMean weight (fun item => -amount item) items ≤
      -bound :=
    weightedMean_le positive nonempty fun item member =>
      neg_le_neg (above item member)
  rw [weightedMean_neg] at mirrored
  exact neg_le_neg_iff.mp mirrored

/-- The mean reaches a lower bound only when every amount does. -/
theorem eq_of_eq_weightedMean
    {bound : K} (positive : ∀ item ∈ items, 0 < weight item)
    (above : ∀ item ∈ items, bound ≤ amount item)
    (reached : weightedMean weight amount items = bound) :
    ∀ item ∈ items, amount item = bound := by
  have mirrored : weightedMean weight (fun item => -amount item) items =
      -bound := by
    rw [weightedMean_neg, reached]
  intro item member
  have same : -amount item = -bound :=
    eq_of_weightedMean_eq positive
      (fun other listed => neg_le_neg (above other listed)) mirrored
      item member
  exact neg_injective same

end CryptoOrderbook.Library
