import Mathlib.Algebra.Order.Group.Nat

/-!
# Saturating machine arithmetic

Unsigned operations that stop at the largest value of their width instead of
wrapping.  Values are natural numbers below `2 ^ width`; each operation is
the exact one cut off at `2 ^ width - 1`.
-/

namespace CryptoOrderbook.Library

/-- Cut a natural number off at the largest value of a width. -/
def saturate (width value : Nat) : Nat :=
  min value (2 ^ width - 1)

/-- `saturating_add`. -/
def saturatingAdd (width left right : Nat) : Nat :=
  saturate width (left + right)

/-- `saturating_mul`. -/
def saturatingMul (width left right : Nat) : Nat :=
  saturate width (left * right)

/-- `saturating_pow`. -/
def saturatingPow (width base exponent : Nat) : Nat :=
  saturate width (base ^ exponent)

/-- A value of the width is kept. -/
theorem saturate_of_lt {width value : Nat} (small : value < 2 ^ width) :
    saturate width value = value :=
  Nat.min_eq_left (Nat.le_sub_one_of_lt small)

/-- A value past the width becomes the largest one. -/
theorem saturate_of_le {width value : Nat} (large : 2 ^ width ≤ value) :
    saturate width value = 2 ^ width - 1 :=
  Nat.min_eq_right ((Nat.sub_le _ _).trans large)

/-- Cutting off keeps a value above every bound of the width. -/
theorem le_saturate
    {width bound value : Nat} (fits : bound < 2 ^ width)
    (le : bound ≤ value) :
    bound ≤ saturate width value :=
  Nat.le_min.mpr ⟨le, Nat.le_sub_one_of_lt fits⟩

/-- A saturating counter is the exact count cut off. -/
theorem saturatingAdd_saturate (width count amount : Nat) :
    saturatingAdd width (saturate width count) amount =
      saturate width (count + amount) := by
  simp only [saturatingAdd, saturate]
  omega

/-- Cutting off before a multiplication changes nothing behind it. -/
theorem saturate_mul_saturate (width value factor : Nat) :
    saturate width (saturate width value * factor) =
      saturate width (value * factor) := by
  rcases Nat.eq_zero_or_pos factor with rfl | positive
  · rfl
  · rcases Nat.le_total value (2 ^ width - 1) with small | large
    · rw [saturate, saturate, Nat.min_eq_left small, saturate]
    · have product : value ≤ value * factor :=
        Nat.le_mul_of_pos_right value positive
      have largest : 2 ^ width - 1 ≤ (2 ^ width - 1) * factor :=
        Nat.le_mul_of_pos_right _ positive
      rw [saturate, saturate, Nat.min_eq_right large, saturate,
        Nat.min_eq_right largest, Nat.min_eq_right (large.trans product)]

end CryptoOrderbook.Library
