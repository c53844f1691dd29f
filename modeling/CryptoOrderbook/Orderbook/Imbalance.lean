import CryptoOrderbook.Library.WeightedMean
import CryptoOrderbook.Orderbook.PositiveLevels

/-!
# Depth imbalance

With exact decimals the imbalance of the top levels is twice the bids' share
of their volume, less one.  On books with positive levels the volume of a
side is zero only when nothing of it is listed, so the imbalance is defined
whenever a level is listed and reaches an end of its range exactly when one
side is empty.
-/

namespace CryptoOrderbook.Book

open CryptoOrderbook.Library
open CryptoOrderbook.Binance
open CryptoOrderbook.Decimal

variable {D : Type} [Decimal D]

/-! ## Listed volumes -/

/-- The quantities of the listed levels. -/
def quantities (levels : List (PriceLevel D)) : List ℚ :=
  levels.map fun level => value level.quantity

/-- The volume of the top bids. -/
def bidVolume (book : OrderBook D) (n : Nat) : ℚ :=
  (quantities (book.topBids n)).sum

/-- The volume of the top asks. -/
def askVolume (book : OrderBook D) (n : Nat) : ℚ :=
  (quantities (book.topAsks n)).sum

theorem value_sumQty [Exact D] (levels : List (PriceLevel D)) :
    value (OrderBook.sumQty levels) = (quantities levels).sum := by
  have folded : ∀ start : D,
      value ((levels.map PriceLevel.quantity).foldl (· + ·) start) =
        value start + (quantities levels).sum := by
    induction levels with
    | nil => simp [quantities]
    | cons level rest induction =>
        intro start
        rw [List.map_cons, List.foldl_cons, induction, Exact.value_add,
          add_assoc]
        rfl
  rw [OrderBook.sumQty, folded, Exact.value_zero, zero_add]

/-- Positive quantities sum to something unless there are none. -/
theorem sum_quantities_pos
    {levels : List (PriceLevel D)}
    (positive : ∀ level ∈ levels, 0 < value level.quantity)
    (nonempty : levels ≠ []) :
    0 < (quantities levels).sum :=
  totalWeight_pos positive nonempty

theorem sum_quantities_nonneg
    {levels : List (PriceLevel D)}
    (positive : ∀ level ∈ levels, 0 < value level.quantity) :
    0 ≤ (quantities levels).sum := by
  rcases eq_or_ne levels [] with rfl | nonempty
  · exact le_rfl
  · exact (sum_quantities_pos positive nonempty).le

theorem sum_quantities_eq_zero_iff
    {levels : List (PriceLevel D)}
    (positive : ∀ level ∈ levels, 0 < value level.quantity) :
    (quantities levels).sum = 0 ↔ levels = [] := by
  constructor
  · intro zero
    by_contra nonempty
    exact (sum_quantities_pos positive nonempty).ne' zero
  · rintro rfl
    rfl

namespace OrderBook

theorem topBids_eq_nil_iff (book : OrderBook D) (n : Nat) :
    book.topBids n = [] ↔ n = 0 ∨ book.bids.entries = [] := by
  rw [topBids, List.map_eq_nil_iff, List.take_eq_nil_iff,
    List.reverse_eq_nil_iff]

theorem topAsks_eq_nil_iff (book : OrderBook D) (n : Nat) :
    book.topAsks n = [] ↔ n = 0 ∨ book.asks.entries = [] := by
  rw [topAsks, List.map_eq_nil_iff, List.take_eq_nil_iff]

variable {book : OrderBook D}

theorem Positive.bidVolume_nonneg (positive : book.Positive) (n : Nat) :
    0 ≤ bidVolume book n :=
  sum_quantities_nonneg (positive.topBids n)

theorem Positive.askVolume_nonneg (positive : book.Positive) (n : Nat) :
    0 ≤ askVolume book n :=
  sum_quantities_nonneg (positive.topAsks n)

theorem Positive.bidVolume_eq_zero_iff
    (positive : book.Positive) {n : Nat} (listed : n ≠ 0) :
    bidVolume book n = 0 ↔ book.bids.entries = [] := by
  rw [bidVolume, sum_quantities_eq_zero_iff (positive.topBids n),
    topBids_eq_nil_iff, or_iff_right listed]

theorem Positive.askVolume_eq_zero_iff
    (positive : book.Positive) {n : Nat} (listed : n ≠ 0) :
    askVolume book n = 0 ↔ book.asks.entries = [] := by
  rw [askVolume, sum_quantities_eq_zero_iff (positive.topAsks n),
    topAsks_eq_nil_iff, or_iff_right listed]

/-- There is volume exactly when some level is listed. -/
theorem Positive.volume_ne_zero_iff
    (positive : book.Positive) (n : Nat) :
    bidVolume book n + askVolume book n ≠ 0 ↔
      1 ≤ n ∧ (book.bids.entries ≠ [] ∨ book.asks.entries ≠ []) := by
  rw [Ne, add_eq_zero_iff_of_nonneg (positive.bidVolume_nonneg n)
    (positive.askVolume_nonneg n)]
  rcases Nat.eq_zero_or_pos n with rfl | listed
  · have noBids := (book.topBids_eq_nil_iff 0).mpr (Or.inl rfl)
    have noAsks := (book.topAsks_eq_nil_iff 0).mpr (Or.inl rfl)
    simp [bidVolume, askVolume, noBids, noAsks, quantities]
  · rw [positive.bidVolume_eq_zero_iff listed.ne',
      positive.askVolume_eq_zero_iff listed.ne', not_and_or]
    exact (and_iff_right listed).symm

end OrderBook

/-! ## The imbalance as a share -/

/-- The difference of two volumes in proportion to their total. -/
def balance (bids asks : ℚ) : ℚ :=
  (bids - asks) / (bids + asks)

theorem balance_eq_share {bids asks : ℚ} (total : bids + asks ≠ 0) :
    balance bids asks = 2 * share bids asks - 1 := by
  rw [balance, share, eq_sub_iff_add_eq, div_add_one total, mul_div_assoc']
  ring

theorem balance_swap (bids asks : ℚ) :
    balance asks bids = -balance bids asks := by
  rw [balance, balance, add_comm asks bids, ← neg_div, neg_sub]

theorem depthImbalance_eq [Exact D] (book : OrderBook D) (n : Nat) :
    (book.depthImbalance n).map value =
      if bidVolume book n + askVolume book n = 0 then none
      else some (balance (bidVolume book n) (askVolume book n)) := by
  have total :
      value
          (OrderBook.sumQty (book.topBids n) +
            OrderBook.sumQty (book.topAsks n)) =
        bidVolume book n + askVolume book n := by
    rw [Exact.value_add, value_sumQty, value_sumQty]
    rfl
  rw [OrderBook.depthImbalance]
  by_cases zero : bidVolume book n + askVolume book n = 0
  · simp [zero, total]
  · simp only [isZero_iff, total, zero, if_false, Option.map_some,
      Exact.value_div, Exact.value_sub, value_sumQty]
    rfl

/-! ## The law -/

/-- The imbalance of the top `n` levels of a book. -/
structure ImbalanceOf (book : OrderBook D) (n : Nat) (imbalance : ℚ) :
    Prop where
  formula : imbalance =
    (bidVolume book n - askVolume book n) /
      (bidVolume book n + askVolume book n)
  lower : -1 ≤ imbalance
  upper : imbalance ≤ 1
  one_iff : imbalance = 1 ↔ book.asks.entries = []
  neg_one_iff : imbalance = -1 ↔ book.bids.entries = []
  pos_iff : 0 < imbalance ↔ askVolume book n < bidVolume book n

/-- The listed quantities of each book's bids are those of the other's asks. -/
structure Mirrored (book other : OrderBook D) (n : Nat) : Prop where
  bids : (quantities (other.topBids n)).Perm (quantities (book.topAsks n))
  asks : (quantities (other.topAsks n)).Perm (quantities (book.topBids n))

theorem OrderBook.Positive.imbalanceOf_balance
    {book : OrderBook D} (positive : book.Positive) {n : Nat}
    (listed : n ≠ 0) (total : bidVolume book n + askVolume book n ≠ 0) :
    ImbalanceOf book n (balance (bidVolume book n) (askVolume book n)) := by
  have bids := positive.bidVolume_nonneg n
  have asks := positive.askVolume_nonneg n
  have totalPos : 0 < bidVolume book n + askVolume book n :=
    lt_of_le_of_ne (add_nonneg bids asks) total.symm
  have least : 0 ≤ share (bidVolume book n) (askVolume book n) :=
    share_nonneg bids asks
  have most : share (bidVolume book n) (askVolume book n) ≤ 1 :=
    share_le_one bids asks
  constructor
  · rfl
  · rw [balance_eq_share total]
    linarith
  · rw [balance_eq_share total]
    linarith
  · rw [← positive.askVolume_eq_zero_iff listed, ← share_eq_one_iff total,
      balance_eq_share total]
    constructor
    · intro top
      linarith
    · intro whole
      linarith
  · rw [← positive.bidVolume_eq_zero_iff listed, ← share_eq_zero_iff total,
      balance_eq_share total]
    constructor
    · intro bottom
      linarith
    · intro nothing
      linarith
  · rw [← half_lt_share_iff totalPos, balance_eq_share total]
    constructor
    · intro buying
      linarith
    · intro more
      linarith

/-- Mirrored books have opposite imbalances, or neither has one. -/
theorem Mirrored.depthImbalance [Exact D]
    {book other : OrderBook D} {n : Nat} (mirrored : Mirrored book other n) :
    (other.depthImbalance n).map value =
      (book.depthImbalance n).map fun imbalance => -value imbalance := by
  have bids : bidVolume other n = askVolume book n := mirrored.bids.sum_eq
  have asks : askVolume other n = bidVolume book n := mirrored.asks.sum_eq
  have negated :
      ((book.depthImbalance n).map fun imbalance => -value imbalance) =
        ((book.depthImbalance n).map value).map Neg.neg := by
    rw [Option.map_map]
    rfl
  rw [negated, depthImbalance_eq, depthImbalance_eq, bids, asks,
    add_comm (askVolume book n), balance_swap]
  split_ifs <;> rfl

/--
On every book written by nonnegative quantities the imbalance of the top `n`
levels is defined exactly when a level is listed, keeps its range with the
ends at the one-sided books and its sign with the greater volume, and is
negated in any such book with the listed quantities exchanged.
-/
theorem depth_imbalance_law
    (D : Type) [Decimal D] [Exact D]
    {calls : List (Call D)} (nonnegative : NonnegativeCalls calls) (n : Nat) :
    (((OrderBook.afterCalls calls).depthImbalance n).isSome ↔
        1 ≤ n ∧
          ((OrderBook.afterCalls calls).bids.entries ≠ [] ∨
            (OrderBook.afterCalls calls).asks.entries ≠ [])) ∧
      (∀ imbalance,
        (OrderBook.afterCalls calls).depthImbalance n = some imbalance →
          ImbalanceOf (OrderBook.afterCalls calls) n (value imbalance)) ∧
      ∀ others : List (Call D), NonnegativeCalls others →
        Mirrored (OrderBook.afterCalls calls) (OrderBook.afterCalls others)
            n →
          ((OrderBook.afterCalls others).depthImbalance n).map value =
            ((OrderBook.afterCalls calls).depthImbalance n).map
              fun imbalance => -value imbalance := by
  have positive := positive_afterCalls nonnegative
  have volume := positive.volume_ne_zero_iff n
  have computed := depthImbalance_eq (OrderBook.afterCalls calls) n
  refine ⟨?_, ?_, fun _ _ mirrored => mirrored.depthImbalance⟩
  · have isSome :
        ((OrderBook.afterCalls calls).depthImbalance n).isSome =
          (((OrderBook.afterCalls calls).depthImbalance n).map value).isSome :=
      Option.isSome_map.symm
    rw [← volume, isSome, computed]
    split_ifs with zero
    · simp [zero]
    · simp [zero]
  · intro imbalance defined
    rw [defined, Option.map_some] at computed
    split_ifs at computed with zero
    have atBalance := Option.some.inj computed
    rw [atBalance]
    exact
      positive.imbalanceOf_balance (Nat.pos_iff_ne_zero.mp (volume.mp zero).1)
        zero

/-! ### A book with three to buy and one to sell -/

def buyPressure : List (Call ℚ) :=
  [.apply ⟨1, 1, [⟨100, 2⟩, ⟨99, 1⟩], [⟨101, 1⟩]⟩]

theorem nonnegativeCalls_buyPressure : NonnegativeCalls buyPressure := by
  intro update member
  rw [buyPressure, List.mem_singleton, Call.apply.injEq] at member
  subst update
  decide +kernel

/-- Two levels are in balance by a half, and neither side is empty. -/
theorem depth_imbalance_law_sample :
    ImbalanceOf (OrderBook.afterCalls buyPressure) 2 (1 / 2 : ℚ) :=
  (depth_imbalance_law ℚ nonnegativeCalls_buyPressure 2).2.1 (1 / 2)
    (by decide +kernel)

end CryptoOrderbook.Book
