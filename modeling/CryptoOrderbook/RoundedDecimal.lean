import CryptoOrderbook.Decimal
import CryptoOrderbook.Library.ScaledInteger

/-!
# Decimals of finite precision

A decimal as a coefficient below `2 ^ 96` over a power of ten of at most 28.
A sum or a difference is the exact result at the largest scale at which it
fits.  How ties are rounded, what a product and a quotient are, and how
decimals are read and printed is left open.
-/

namespace CryptoOrderbook.Decimal

open CryptoOrderbook.Library

/-- A 96-bit coefficient and a scale of at most 28. -/
def decimalFormat : Format where
  base := 10
  limit := 2 ^ 96
  maxScale := 28
  base_ne_zero := by decide
  limit_pos := by decide

/-- A number of the format. -/
structure Fixed where
  number : ℚ
  representable : decimalFormat.Representable number
deriving DecidableEq

namespace Fixed

@[ext]
theorem ext {left right : Fixed} (same : left.number = right.number) :
    left = right := by
  cases left
  cases right
  cases same
  rfl

def zero : Fixed :=
  ⟨0, Format.representable_zero⟩

/-- The exact result in the format; without a value where it overflows. -/
def ofExact (rounding : Rounding) (exact : ℚ) : Fixed :=
  match fits : decimalFormat.fit rounding exact with
  | some number => ⟨number, Format.representable_of_fit fits⟩
  | none => zero

theorem ofExact_number
    {rounding : Rounding} {exact : ℚ}
    (representable : decimalFormat.Representable exact) :
    (ofExact rounding exact).number = exact := by
  have fits : decimalFormat.fit rounding exact = some exact :=
    Format.fit_of_representable representable
  rw [ofExact]
  split
  next number found =>
    rw [fits, Option.some.injEq] at found
    exact found.symm
  next missing =>
    rw [fits] at missing
    cases missing

end Fixed

/-- What is left open of the arithmetic and the text form. -/
structure Arithmetic where
  rounding : Rounding
  mul : Fixed → Fixed → Fixed
  div : Fixed → Fixed → Fixed
  fromStr : String → Except String Fixed
  toString : Fixed → String

/-- Decimals of finite precision under an arithmetic. -/
def Rounded (_arithmetic : Arithmetic) : Type :=
  Fixed

variable {arithmetic : Arithmetic}

instance : DecidableEq (Rounded arithmetic) :=
  inferInstanceAs (DecidableEq Fixed)

instance : Decimal (Rounded arithmetic) where
  zero := Fixed.zero
  add left right :=
    Fixed.ofExact arithmetic.rounding (left.number + right.number)
  sub left right :=
    Fixed.ofExact arithmetic.rounding (left.number - right.number)
  mul := arithmetic.mul
  div := arithmetic.div
  value := Fixed.number
  fromStr := arithmetic.fromStr
  toString := arithmetic.toString

namespace Rounded

variable {left right : Rounded arithmetic}

theorem eq_of_value (same : value left = value right) : left = right :=
  Fixed.ext same

theorem value_zero : value (0 : Rounded arithmetic) = 0 :=
  rfl

/-- A representable sum is exact. -/
theorem value_add
    (representable :
      decimalFormat.Representable (value left + value right)) :
    value (left + right) = value left + value right :=
  Fixed.ofExact_number representable

/-- A representable difference is exact. -/
theorem value_sub
    (representable :
      decimalFormat.Representable (value left - value right)) :
    value (left - right) = value left - value right :=
  Fixed.ofExact_number representable

theorem zero_add_eq (number : Rounded arithmetic) : 0 + number = number := by
  have exact_ : value (0 : Rounded arithmetic) + value number =
      value number := by
    rw [value_zero, zero_add]
  have representable :
      decimalFormat.Representable
        (value (0 : Rounded arithmetic) + value number) := by
    rw [exact_]
    exact Fixed.representable number
  apply eq_of_value
  rw [value_add representable, exact_]

end Rounded

end CryptoOrderbook.Decimal
