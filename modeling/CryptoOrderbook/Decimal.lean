import Mathlib.Data.Rat.Defs
import Mathlib.Algebra.Order.Ring.Rat

/-!
# The decimal numbers the service computes with

`rust_decimal::Decimal` is not part of the repository, so the model is
parametric in a type that provides what the code uses of it: a numeric
value, through which the Rust type is compared and tested for zero, the
arithmetic operators, and its text form.

Equality and order of decimals are those of the numeric value, never those
of the representation: `1.0` and `1.00` are one price.  An operator returns
the value it has when the operation does not overflow; a run of the model
is a run of the program up to its first arithmetic panic.

The rationals are the instance with exact arithmetic.
-/

namespace CryptoOrderbook

/-- What the code uses of `rust_decimal::Decimal`. -/
class Decimal (D : Type) extends Zero D, Add D, Sub D, Mul D, Div D where
  /-- The number a decimal stands for. -/
  value : D → ℚ
  /-- `str::parse::<Decimal>`, with the text of its error. -/
  fromStr : String → Except String D
  /-- `Decimal::to_string`. -/
  toString : D → String

namespace Decimal

variable {D : Type} [Decimal D]

/-- `Decimal::is_zero`. -/
def isZero (number : D) : Bool :=
  value number = 0

@[simp]
theorem isZero_iff (number : D) :
    isZero number = true ↔ value number = 0 := by
  simp [isZero]

/-! ## Exact decimals -/

/-- The digits of a decimal literal after its sign, as a rational. -/
def readDigits : List Char → Option ℚ
  | digits =>
      let whole := digits.takeWhile (· ≠ '.')
      let fraction := (digits.dropWhile (· ≠ '.')).drop 1
      let all := whole ++ fraction
      if all.isEmpty || !all.all Char.isDigit then
        none
      else
        some
          ((all.foldl (fun total digit => 10 * total + (digit.toNat - 48)) 0 : Nat) /
            (10 ^ fraction.length : Nat))

/-- Read a signed decimal literal exactly. -/
def readRat (text : String) : Except String ℚ :=
  let read :=
    match text.toList with
    | '-' :: digits => (readDigits digits).map Neg.neg
    | '+' :: digits => readDigits digits
    | digits => readDigits digits
  match read with
  | some number => .ok number
  | none => .error "Invalid decimal: unknown character"

/-- Rationals are decimals of unbounded precision. -/
instance : Decimal ℚ where
  value number := number
  fromStr := readRat
  toString number :=
    if number.den = 1 then ToString.toString number.num
    else ToString.toString number.num ++ "/" ++ ToString.toString number.den

@[simp]
theorem value_rat (number : ℚ) : value number = number :=
  rfl

/-- Decimals whose operators neither round nor overflow. -/
class Exact (D : Type) [Decimal D] : Prop where
  value_zero : value (0 : D) = 0
  value_add (left right : D) : value (left + right) = value left + value right
  value_sub (left right : D) : value (left - right) = value left - value right
  value_mul (left right : D) : value (left * right) = value left * value right
  value_div (left right : D) : value (left / right) = value left / value right

instance : Exact ℚ where
  value_zero := rfl
  value_add _ _ := rfl
  value_sub _ _ := rfl
  value_mul _ _ := rfl
  value_div _ _ := rfl

end Decimal

end CryptoOrderbook
