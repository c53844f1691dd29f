import Mathlib.Algebra.Order.Field.Rat
import Mathlib.Data.Nat.Find
import Mathlib.Tactic.FieldSimp

/-!
# Numbers of bounded coefficient and scale

A format holds the numbers that are an integer coefficient of bounded
magnitude over a power of its base, the scale, which is bounded too.  An
exact result is put into a format at the largest scale at which its rounded
coefficient fits.

Whatever the rounding does between integers, a number of the format is kept
as it is: it fits exactly at its own scale, and at every greater one its
coefficient is still an integer.
-/

namespace CryptoOrderbook.Library

/-- A way of rounding to integers that leaves integers alone. -/
structure Rounding where
  round : ℚ → ℤ
  round_int : ∀ number : ℤ, round number = number

/-- Coefficients below `limit` over the powers of `base` up to `maxScale`. -/
structure Format where
  base : ℕ
  limit : ℕ
  maxScale : ℕ
  base_ne_zero : base ≠ 0
  limit_pos : 0 < limit

namespace Format

variable (format : Format) (rounding : Rounding)

/-- The number is one of the format. -/
def Representable (number : ℚ) : Prop :=
  ∃ scale ≤ format.maxScale, ∃ coefficient : ℤ,
    coefficient.natAbs < format.limit ∧
      number = coefficient / format.base ^ scale

/-- The coefficient of an exact result at a scale. -/
def coefficientAt (exact : ℚ) (scale : ℕ) : ℤ :=
  rounding.round (exact * format.base ^ scale)

/-- The coefficient at a scale is small enough for the format. -/
def FitsAt (exact : ℚ) (scale : ℕ) : Prop :=
  (format.coefficientAt rounding exact scale).natAbs < format.limit

instance (exact : ℚ) : DecidablePred (format.FitsAt rounding exact) :=
  fun _ => inferInstanceAs (Decidable (_ < _))

/-- The largest scale at which an exact result fits, if there is one. -/
def bestScale (exact : ℚ) : ℕ :=
  Nat.findGreatest (format.FitsAt rounding exact) format.maxScale

/-- An exact result at its best scale; `none` if it fits at no scale. -/
def fit (exact : ℚ) : Option ℚ :=
  if format.FitsAt rounding exact (format.bestScale rounding exact) then
    some
      (format.coefficientAt rounding exact
          (format.bestScale rounding exact) /
        format.base ^ format.bestScale rounding exact)
  else
    none

variable {format rounding}

theorem representable_zero : format.Representable 0 :=
  ⟨0, Nat.zero_le _, 0, format.limit_pos, by simp⟩

/-- What an exact result becomes is a number of the format. -/
theorem representable_of_fit
    {exact number : ℚ} (fits : format.fit rounding exact = some number) :
    format.Representable number := by
  rw [fit] at fits
  split_ifs at fits with small
  exact
    ⟨_, Nat.findGreatest_le _, _, small, (Option.some.inj fits).symm⟩

/-- At or above the scale of a number its coefficient is an integer. -/
theorem coefficientAt_of_le
    {scale greater : ℕ} (le : scale ≤ greater) (coefficient : ℤ) :
    format.coefficientAt rounding (coefficient / format.base ^ scale)
        greater =
      coefficient * format.base ^ (greater - scale) := by
  have base : (format.base : ℚ) ≠ 0 :=
    Nat.cast_ne_zero.mpr format.base_ne_zero
  have whole :
      (coefficient / format.base ^ scale * format.base ^ greater : ℚ) =
        ((coefficient * format.base ^ (greater - scale) : ℤ) : ℚ) := by
    push_cast
    rw [← Nat.add_sub_of_le le, pow_add, Nat.add_sub_cancel_left]
    field_simp
  rw [coefficientAt, whole, rounding.round_int]

/-- A number of the format is kept as it is. -/
theorem fit_of_representable
    {exact : ℚ} (representable : format.Representable exact) :
    format.fit rounding exact = some exact := by
  rcases representable with ⟨scale, le, coefficient, small, rfl⟩
  have fits : format.FitsAt rounding (coefficient / format.base ^ scale)
      scale := by
    rw [FitsAt, coefficientAt_of_le le_rfl]
    simpa using small
  have best : format.FitsAt rounding (coefficient / format.base ^ scale)
      (format.bestScale rounding (coefficient / format.base ^ scale)) :=
    Nat.findGreatest_spec le fits
  have above : scale ≤ format.bestScale rounding
      (coefficient / format.base ^ scale) :=
    Nat.le_findGreatest le fits
  have base : (format.base : ℚ) ≠ 0 :=
    Nat.cast_ne_zero.mpr format.base_ne_zero
  rw [fit, if_pos best, coefficientAt_of_le above]
  congr 1
  push_cast
  rw [div_eq_div_iff (pow_ne_zero _ base) (pow_ne_zero _ base), mul_assoc,
    ← pow_add, Nat.sub_add_cancel above]

/-- Rounding towards negative infinity. -/
def roundDown : Rounding where
  round := Rat.floor
  round_int := Rat.floor_intCast

instance (number : ℚ) : Decidable (format.Representable number) :=
  decidable_of_iff (format.fit roundDown number = some number)
    ⟨representable_of_fit, fit_of_representable⟩

end Format

end CryptoOrderbook.Library
