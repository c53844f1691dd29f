import Mathlib.Algebra.BigOperators.Group.List.Basic
import Mathlib.Algebra.Field.Rat
import Mathlib.Tactic.Ring
import CryptoOrderbook.Decimal
import CryptoOrderbook.Library.SlidingWindow

/-!
# The rolling VWAP window

`src/trades/vwap.rs`.  The window keeps its entries and two running sums; a
trade is added after the entries that are too old for it have been evicted
from the front.  Durations are nanoseconds, timestamps are 64-bit
milliseconds, and the subtraction that computes the cutoff saturates at zero.

A window whose sums are those of its entries keeps them so, and its entries
move as a sliding window of the library.
-/

namespace CryptoOrderbook.Vwap

open CryptoOrderbook.Library
open CryptoOrderbook.Decimal

variable {D : Type} [Decimal D]

/-- An entry in the sliding window. -/
structure Entry (D : Type) where
  price : D
  quantity : D
  timestampMs : UInt64
deriving DecidableEq, Repr

/-- `Duration::as_millis` of a number of nanoseconds. -/
def asMillis (duration : Nat) : Nat :=
  duration / 1000000

/-- Rolling volume-weighted average price over a sliding time window. -/
structure VwapWindow (D : Type) where
  window : Nat
  entries : List (Entry D)
  sumPq : D
  sumQ : D
deriving DecidableEq, Repr

/-- The oldest time kept at `nowMs`; the cast to `u64` truncates. -/
def cutoff (window nowMs : Nat) : Nat :=
  nowMs - asMillis window % 2 ^ 64

/-- The loop of `evict`: pop from the front what is before the bound. -/
def popAged (bound : Nat) :
    List (Entry D) → D → D → List (Entry D) × D × D
  | [], sumPq, sumQ => ([], sumPq, sumQ)
  | front :: rest, sumPq, sumQ =>
      if front.timestampMs.toNat < bound then
        popAged bound rest (sumPq - front.price * front.quantity)
          (sumQ - front.quantity)
      else
        (front :: rest, sumPq, sumQ)

namespace VwapWindow

def new (window : Nat) : VwapWindow D :=
  ⟨window, [], 0, 0⟩

def evict (window : VwapWindow D) (nowMs : UInt64) : VwapWindow D :=
  match popAged (cutoff window.window nowMs.toNat)
      window.entries window.sumPq window.sumQ with
  | (entries, sumPq, sumQ) =>
      { window with entries := entries, sumPq := sumPq, sumQ := sumQ }

/-- Add a trade and evict entries that have aged out of the window. -/
def add (window : VwapWindow D) (price quantity : D) (timestampMs : UInt64) :
    VwapWindow D :=
  let evicted := window.evict timestampMs
  { evicted with
    sumPq := evicted.sumPq + price * quantity
    sumQ := evicted.sumQ + quantity
    entries := evicted.entries ++ [⟨price, quantity, timestampMs⟩] }

/-- Current VWAP, `none` if the quantities sum to zero. -/
def vwap (window : VwapWindow D) : Option D :=
  if isZero window.sumQ then none else some (window.sumPq / window.sumQ)

/-- Total volume traded in the window. -/
def volume (window : VwapWindow D) : D :=
  window.sumQ

end VwapWindow

/-! ## The entries slide -/

/-- The time of an entry in milliseconds. -/
def Entry.time (entry : Entry D) : Nat :=
  entry.timestampMs.toNat

theorem cutoff_le (window nowMs : Nat) : cutoff window nowMs ≤ nowMs :=
  Nat.sub_le _ _

theorem cutoff_monotone (window : Nat) : Monotone (cutoff window) :=
  fun _ _ earlier => Nat.sub_le_sub_right earlier _

theorem popAged_cons_of_aged
    {bound : Nat} {front : Entry D} (aged : front.time < bound)
    (rest : List (Entry D)) (sumPq sumQ : D) :
    popAged bound (front :: rest) sumPq sumQ =
      popAged bound rest (sumPq - front.price * front.quantity)
        (sumQ - front.quantity) :=
  if_pos aged

theorem popAged_cons_of_recent
    {bound : Nat} {front : Entry D} (recent : ¬ front.time < bound)
    (rest : List (Entry D)) (sumPq sumQ : D) :
    popAged bound (front :: rest) sumPq sumQ =
      (front :: rest, sumPq, sumQ) :=
  if_neg recent

/-- The loop keeps what the library's `expire` keeps. -/
theorem popAged_entries
    (bound : Nat) (entries : List (Entry D)) (sumPq sumQ : D) :
    (popAged bound entries sumPq sumQ).1 =
      expire Entry.time bound entries := by
  induction entries generalizing sumPq sumQ with
  | nil => rfl
  | cons front rest induction =>
      by_cases aged : front.time < bound
      · rw [popAged_cons_of_aged aged, expire_cons_of_before aged]
        exact induction _ _
      · rw [popAged_cons_of_recent aged, expire_cons_of_reached aged]

theorem add_entries
    (window : VwapWindow D) (price quantity : D) (timestampMs : UInt64) :
    (window.add price quantity timestampMs).entries =
      slide Entry.time (cutoff window.window) window.entries
        ⟨price, quantity, timestampMs⟩ :=
  congrArg (· ++ [_]) (popAged_entries _ _ _ _)

/-! ## The running sums -/

/-- Price times quantity, summed over the entries. -/
def turnover (entries : List (Entry D)) : ℚ :=
  (entries.map fun entry => value entry.price * value entry.quantity).sum

/-- The total quantity of the entries. -/
def totalQuantity (entries : List (Entry D)) : ℚ :=
  (entries.map fun entry => value entry.quantity).sum

/-- The volume-weighted price of the entries, if their quantity is not zero. -/
def weightedPrice (entries : List (Entry D)) : Option ℚ :=
  if totalQuantity entries = 0 then none
  else some (turnover entries / totalQuantity entries)

@[simp]
theorem turnover_append (first second : List (Entry D)) :
    turnover (first ++ second) = turnover first + turnover second := by
  simp [turnover]

@[simp]
theorem totalQuantity_append (first second : List (Entry D)) :
    totalQuantity (first ++ second) =
      totalQuantity first + totalQuantity second := by
  simp [totalQuantity]

theorem turnover_perm {first second : List (Entry D)}
    (permuted : first.Perm second) :
    turnover first = turnover second :=
  (permuted.map _).sum_eq

theorem totalQuantity_perm {first second : List (Entry D)}
    (permuted : first.Perm second) :
    totalQuantity first = totalQuantity second :=
  (permuted.map _).sum_eq

/-- The running sums are those of the entries. -/
structure SumsEntries (entries : List (Entry D)) (sumPq sumQ : D) : Prop where
  sumPq : value sumPq = turnover entries
  sumQ : value sumQ = totalQuantity entries

/-- The sums of a window are those of its entries. -/
def VwapWindow.Rescans (window : VwapWindow D) : Prop :=
  SumsEntries window.entries window.sumPq window.sumQ

theorem VwapWindow.Rescans.volume
    {window : VwapWindow D} (rescans : window.Rescans) :
    value window.volume = totalQuantity window.entries :=
  rescans.sumQ

section Exact

variable [Exact D]

/-- Every eviction subtracts what the entry had added. -/
theorem SumsEntries.popAged
    (bound : Nat) {entries : List (Entry D)} {sumPq sumQ : D}
    (sums : SumsEntries entries sumPq sumQ) :
    SumsEntries (popAged bound entries sumPq sumQ).1
      (popAged bound entries sumPq sumQ).2.1
      (popAged bound entries sumPq sumQ).2.2 := by
  induction entries generalizing sumPq sumQ with
  | nil => exact sums
  | cons front rest induction =>
      by_cases aged : front.time < bound
      · rw [popAged_cons_of_aged aged]
        apply induction
        constructor
        · rw [Exact.value_sub, Exact.value_mul, sums.sumPq]
          simp [turnover]
        · rw [Exact.value_sub, sums.sumQ]
          simp [totalQuantity]
      · rw [popAged_cons_of_recent aged]
        exact sums

theorem rescans_new (window : Nat) :
    (VwapWindow.new window : VwapWindow D).Rescans :=
  ⟨Exact.value_zero, Exact.value_zero⟩

theorem VwapWindow.Rescans.add
    {window : VwapWindow D} (rescans : window.Rescans)
    (price quantity : D) (timestampMs : UInt64) :
    (window.add price quantity timestampMs).Rescans := by
  have evicted : (window.evict timestampMs).Rescans :=
    SumsEntries.popAged _ rescans
  constructor
  · show value ((window.evict timestampMs).sumPq + price * quantity) =
      turnover ((window.evict timestampMs).entries ++ [_])
    rw [Exact.value_add, Exact.value_mul, evicted.sumPq, turnover_append]
    simp [turnover]
  · show value ((window.evict timestampMs).sumQ + quantity) =
      totalQuantity ((window.evict timestampMs).entries ++ [_])
    rw [Exact.value_add, evicted.sumQ, totalQuantity_append]
    simp [totalQuantity]

theorem VwapWindow.Rescans.vwap
    {window : VwapWindow D} (rescans : window.Rescans) :
    window.vwap.map value = weightedPrice window.entries := by
  rw [VwapWindow.vwap, weightedPrice, ← rescans.sumPq, ← rescans.sumQ]
  by_cases zero : value window.sumQ = 0
  · simp [zero]
  · simp [zero, Exact.value_div]

end Exact

end CryptoOrderbook.Vwap
