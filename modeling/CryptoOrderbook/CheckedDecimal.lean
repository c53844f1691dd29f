import Mathlib.Algebra.Order.Group.Abs
import CryptoOrderbook.Decimal

/-!
# Decimal operators that panic

A decimal is a signed 96-bit coefficient over a power of ten, and an operator
panics when the magnitude of its exact result exceeds the largest
coefficient.  Division panics on a zero divisor; whether a quotient by
another divisor is too large for the type is a parameter.

An operator that does not panic returns what the operator of `Decimal` does.
-/

namespace CryptoOrderbook.Decimal

variable {D : Type} [Decimal D]

/-- Why an operator panics. -/
inductive Panic where
  | overflow
  | divisionByZero
deriving DecidableEq, Repr

/-- The largest coefficient, and so the largest magnitude of a decimal. -/
def maxMagnitude : ℚ :=
  2 ^ 96 - 1

/-- The exact result is a magnitude of the type. -/
def InRange (exact : ℚ) : Prop :=
  |exact| ≤ maxMagnitude

instance (exact : ℚ) : Decidable (InRange exact) :=
  inferInstanceAs (Decidable (_ ≤ _))

/-- The result of an operation whose exact value is known. -/
def checked (exact : ℚ) (result : D) : Except Panic D :=
  if InRange exact then .ok result else .error .overflow

/-- `+` of two decimals. -/
def tryAdd (left right : D) : Except Panic D :=
  checked (value left + value right) (left + right)

/-- `-` of two decimals. -/
def trySub (left right : D) : Except Panic D :=
  checked (value left - value right) (left - right)

/-- `*` of two decimals. -/
def tryMul (left right : D) : Except Panic D :=
  checked (value left * value right) (left * right)

/-- `/` of two decimals. -/
def tryDiv (tooLarge : D → D → Bool) (left right : D) : Except Panic D :=
  if isZero right then .error .divisionByZero
  else if tooLarge left right then .error .overflow
  else .ok (left / right)

/-! ## Operators that do not panic -/

omit [Decimal D] in
theorem checked_eq_ok_iff {exact : ℚ} {result final : D} :
    checked exact result = .ok final ↔ InRange exact ∧ final = result := by
  by_cases fits : InRange exact
  · simp [checked, fits, eq_comm]
  · simp [checked, fits]

theorem tryDiv_eq_ok_iff
    {tooLarge : D → D → Bool} {left right final : D} :
    tryDiv tooLarge left right = .ok final ↔
      isZero right = false ∧ tooLarge left right = false ∧
        final = left / right := by
  cases zero : isZero right with
  | true => simp [tryDiv, zero]
  | false =>
      cases large : tooLarge left right with
      | true => simp [tryDiv, zero, large]
      | false => simp [tryDiv, zero, large, eq_comm]

theorem pure_eq_ok_iff {Result : Type} {result final : Result} :
    (pure result : Except Panic Result) = .ok final ↔ final = result := by
  simp [pure, Except.pure, eq_comm]

/-- A sequence does not panic exactly when neither of its parts does. -/
theorem bind_eq_ok_iff
    {First Second : Type} {first : Except Panic First}
    {rest : First → Except Panic Second} {final : Second} :
    first >>= rest = .ok final ↔
      ∃ middle, first = .ok middle ∧ rest middle = .ok final := by
  cases first with
  | error panic => simp [bind, Except.bind]
  | ok middle => simp [bind, Except.bind]

end CryptoOrderbook.Decimal
