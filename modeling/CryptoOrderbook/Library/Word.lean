import CryptoOrderbook.Library.Saturating

/-!
# Machine words

The unsigned operations of a fixed width on bit vectors, with the overflow
tests of the core library.  Every operation is related to the one on natural
numbers: a saturating operation is the exact one cut off at the largest word,
and a checked one has a value exactly when nothing wraps.
-/

namespace CryptoOrderbook.Library.Word

variable {width : Nat}

/-- `saturating_add`. -/
def saturatingAdd (left right : BitVec width) : BitVec width :=
  if left.uaddOverflow right then .allOnes width else left + right

/-- `saturating_mul`. -/
def saturatingMul (left right : BitVec width) : BitVec width :=
  if left.umulOverflow right then .allOnes width else left * right

/-- `saturating_pow`. -/
def saturatingPow (base : BitVec width) : Nat → BitVec width
  | 0 => .ofNat width 1
  | exponent + 1 => saturatingMul (saturatingPow base exponent) base

/-- `min`. -/
def minimum (left right : BitVec width) : BitVec width :=
  if left ≤ right then left else right

/-- `+` where overflow is checked; `none` is the panic. -/
def checkedAdd (left right : BitVec width) : Option (BitVec width) :=
  if left.uaddOverflow right then none else some (left + right)

/-! ## The operations on natural numbers -/

theorem toNat_saturatingAdd (left right : BitVec width) :
    (saturatingAdd left right).toNat =
      Library.saturatingAdd width left.toNat right.toNat := by
  rw [Library.saturatingAdd, saturatingAdd]
  by_cases overflows : left.uaddOverflow right
  · have large : 2 ^ width ≤ left.toNat + right.toNat := by
      simpa [BitVec.uaddOverflow] using overflows
    rw [if_pos overflows, BitVec.toNat_allOnes, saturate_of_le large]
  · have sum := BitVec.toNat_add_of_not_uaddOverflow overflows
    have small : left.toNat + right.toNat < 2 ^ width :=
      sum ▸ (left + right).isLt
    rw [if_neg overflows, sum, saturate_of_lt small]

theorem toNat_saturatingMul (left right : BitVec width) :
    (saturatingMul left right).toNat =
      Library.saturatingMul width left.toNat right.toNat := by
  rw [Library.saturatingMul, saturatingMul]
  by_cases overflows : left.umulOverflow right
  · have large : 2 ^ width ≤ left.toNat * right.toNat := by
      simpa [BitVec.umulOverflow] using overflows
    rw [if_pos overflows, BitVec.toNat_allOnes, saturate_of_le large]
  · have product := BitVec.toNat_mul_of_not_umulOverflow overflows
    have small : left.toNat * right.toNat < 2 ^ width :=
      product ▸ (left * right).isLt
    rw [if_neg overflows, product, saturate_of_lt small]

theorem toNat_saturatingPow (base : BitVec width) (exponent : Nat) :
    (saturatingPow base exponent).toNat =
      Library.saturatingPow width base.toNat exponent := by
  induction exponent with
  | zero =>
      rw [saturatingPow, Library.saturatingPow, Nat.pow_zero]
      cases width with
      | zero => rfl
      | succ width =>
          have room : 2 ≤ 2 ^ (width + 1) :=
            Nat.le_self_pow (Nat.succ_ne_zero width) 2
          rw [BitVec.toNat_ofNat, Nat.mod_eq_of_lt room, saturate_of_lt room]
  | succ exponent induction =>
      rw [saturatingPow, toNat_saturatingMul, induction,
        Library.saturatingMul, Library.saturatingPow,
        Library.saturatingPow, saturate_mul_saturate, Nat.pow_succ]

theorem toNat_minimum (left right : BitVec width) :
    (minimum left right).toNat = min left.toNat right.toNat := by
  rw [minimum]
  by_cases le : left ≤ right
  · rw [if_pos le, Nat.min_eq_left (BitVec.le_def.mp le)]
  · have less := BitVec.lt_def.mp (BitVec.not_le.mp le)
    rw [if_neg le, Nat.min_eq_right less.le]

/-- A checked sum has its exact value if that has the width. -/
theorem checkedAdd_of_lt
    {left right : BitVec width}
    (fits : left.toNat + right.toNat < 2 ^ width) :
    ∃ sum, checkedAdd left right = some sum ∧
      sum.toNat = left.toNat + right.toNat := by
  have exact : ¬ left.uaddOverflow right := by
    simpa [BitVec.uaddOverflow] using fits
  exact
    ⟨left + right, if_neg exact,
      BitVec.toNat_add_of_not_uaddOverflow exact⟩

end CryptoOrderbook.Library.Word
