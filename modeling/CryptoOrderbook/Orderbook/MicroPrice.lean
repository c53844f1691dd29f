import Mathlib.LinearAlgebra.AffineSpace.Ordered
import Mathlib.Tactic.FieldSimp
import CryptoOrderbook.Library.WeightedMean
import CryptoOrderbook.Orderbook.PositiveLevels
import CryptoOrderbook.Orderbook.TopOfBook

/-!
# The micro-price

With exact decimals the micro-price is the point between the best prices at
the bid's share of the quantity at the touch.  Books written by nonnegative
quantities have positive levels, so the share exists and lies strictly
between zero and one: the micro-price is defined whenever both sides are,
lies strictly between two different prices, and follows the share.
-/

namespace CryptoOrderbook.Book

open CryptoOrderbook.Library
open CryptoOrderbook.Binance
open CryptoOrderbook.Decimal

variable {D : Type} [Decimal D]

/-! ## The best levels -/

namespace OrderBook

theorem Positive.bestBid
    {book : OrderBook D} (positive : book.Positive) {bid : PriceLevel D}
    (isBid : book.bestBid = some bid) :
    0 < value bid.quantity := by
  rw [bestBid_eq_head? book Nat.one_pos] at isBid
  exact positive.topBids 1 bid (List.mem_of_mem_head? isBid)

theorem Positive.bestAsk
    {book : OrderBook D} (positive : book.Positive) {ask : PriceLevel D}
    (isAsk : book.bestAsk = some ask) :
    0 < value ask.quantity := by
  rw [bestAsk_eq_head? book Nat.one_pos] at isAsk
  exact positive.topAsks 1 ask (List.mem_of_mem_head? isAsk)

end OrderBook

/-! ## The point at the bid's share -/

/-- The bid's share of the quantity at the touch. -/
def bidShare (bid ask : PriceLevel D) : ℚ :=
  share (value bid.quantity) (value ask.quantity)

/-- The point between the best prices at the bid's share. -/
def microPoint (bid ask : PriceLevel D) : ℚ :=
  along (value bid.price) (value ask.price) (bidShare bid ask)

/-- The micro-price of a book with these best levels. -/
structure MicroPriceOf (bid ask : PriceLevel D) (micro : ℚ) : Prop where
  formula :
    micro = value bid.price + (value ask.price - value bid.price) *
      (value bid.quantity / (value bid.quantity + value ask.quantity))
  within : value bid.price < value ask.price →
    value bid.price < micro ∧ micro < value ask.price
  crossed : value ask.price < value bid.price →
    value ask.price < micro ∧ micro < value bid.price
  locked : value bid.price = value ask.price → micro = value bid.price
  midpoint : value bid.price ≠ value ask.price →
    (micro = (value bid.price + value ask.price) / 2 ↔
      value bid.quantity = value ask.quantity)

theorem microPriceOf_microPoint
    {bid ask : PriceLevel D} (bidPos : 0 < value bid.quantity)
    (askPos : 0 < value ask.quantity) :
    MicroPriceOf bid ask (microPoint bid ask) := by
  have above : 0 < bidShare bid ask := share_pos bidPos askPos.le
  have below : bidShare bid ask < 1 := share_lt_one bidPos.le askPos
  have onLine :
      microPoint bid ask =
        AffineMap.lineMap (value bid.price) (value ask.price)
          (bidShare bid ask) :=
    along_eq_lineMap _ _ _
  constructor
  · rfl
  · intro rising
    rw [onLine]
    constructor
    · exact (left_lt_lineMap_iff_lt above).mpr rising
    · exact (lineMap_lt_right_iff_lt below).mpr rising
  · intro falling
    rw [onLine]
    constructor
    · exact (right_lt_lineMap_iff_lt below).mpr falling
    · exact (lineMap_lt_left_iff_lt above).mpr falling
  · intro same
    rw [onLine, ← same, AffineMap.lineMap_same_apply]
  · intro different
    have total : value bid.quantity + value ask.quantity ≠ 0 :=
      (add_pos bidPos askPos).ne'
    rw [onLine, ← along_half, along_eq_lineMap, ← share_eq_half_iff total]
    exact (AffineMap.lineMap_injective ℚ different).eq_iff

/-- The micro-point moves towards the ask as the bid's share grows. -/
theorem microPoint_lt_microPoint
    {bid ask bid' ask' : PriceLevel D}
    (sameBid : value bid.price = value bid'.price)
    (sameAsk : value ask.price = value ask'.price)
    (rising : value bid.price < value ask.price)
    (grows : bidShare bid ask < bidShare bid' ask') :
    microPoint bid ask < microPoint bid' ask' := by
  rw [microPoint, microPoint, ← sameBid, ← sameAsk, along_eq_lineMap,
    along_eq_lineMap]
  exact (lineMap_lt_lineMap_iff_of_lt' rising).mpr grows

/-! ## The micro-price of a book -/

theorem OrderBook.microPrice_of_best
    {book : OrderBook D} {bid ask : PriceLevel D}
    (isBid : book.bestBid = some bid) (isAsk : book.bestAsk = some ask) :
    book.microPrice =
      if isZero (bid.quantity + ask.quantity) then none
      else
        some
          ((ask.price * bid.quantity + bid.price * ask.quantity) /
            (bid.quantity + ask.quantity)) := by
  rw [microPrice, isBid, isAsk]
  rfl

section Exact

variable [Exact D]

theorem OrderBook.Positive.microPrice
    {book : OrderBook D} (positive : book.Positive) {bid ask : PriceLevel D}
    (isBid : book.bestBid = some bid) (isAsk : book.bestAsk = some ask) :
    ∃ micro, book.microPrice = some micro ∧
      value micro = microPoint bid ask := by
  have bidPos := positive.bestBid isBid
  have askPos := positive.bestAsk isAsk
  have total : value (bid.quantity + ask.quantity) ≠ 0 := by
    rw [Exact.value_add]
    exact (add_pos bidPos askPos).ne'
  refine
    ⟨(ask.price * bid.quantity + bid.price * ask.quantity) /
      (bid.quantity + ask.quantity), ?_, ?_⟩
  · rw [microPrice_of_best isBid isAsk, if_neg (by simpa using total)]
  · rw [Exact.value_add] at total
    rw [Exact.value_div, Exact.value_add, Exact.value_add, Exact.value_mul,
      Exact.value_mul, microPoint, along, bidShare, share]
    field_simp
    ring

theorem OrderBook.Positive.microPrice_isSome_iff
    {book : OrderBook D} (positive : book.Positive) :
    book.microPrice.isSome ↔
      book.bids.entries ≠ [] ∧ book.asks.entries ≠ [] := by
  rw [Ne, Ne, ← bestBid_eq_none_iff, ← bestAsk_eq_none_iff]
  cases isBid : book.bestBid with
  | none => simp [OrderBook.microPrice, isBid]
  | some bid =>
      cases isAsk : book.bestAsk with
      | none => simp [OrderBook.microPrice, isBid, isAsk]
      | some ask =>
          rcases positive.microPrice isBid isAsk with ⟨micro, defined, -⟩
          simp [defined]

end Exact

/-! ## The law -/

/-- The best levels of a book and its micro-price. -/
structure Touch
    (book : OrderBook D) (bid ask : PriceLevel D) (micro : D) : Prop where
  isBid : book.bestBid = some bid
  isAsk : book.bestAsk = some ask
  isMicro : book.microPrice = some micro

/--
Where two books have the same best prices, the bid below the ask, the
micro-price is greater in the book whose best bid is larger beside the same
ask, and smaller in the one whose best ask is larger beside the same bid.
-/
def MicroPriceFollows (book other : OrderBook D) : Prop :=
  ∀ bid ask micro bid' ask' micro',
    Touch book bid ask micro → Touch other bid' ask' micro' →
      value bid.price = value bid'.price →
        value ask.price = value ask'.price →
          value bid.price < value ask.price →
            (value ask.quantity = value ask'.quantity →
              value bid.quantity < value bid'.quantity →
                value micro < value micro') ∧
            (value bid.quantity = value bid'.quantity →
              value ask.quantity < value ask'.quantity →
                value micro' < value micro)

theorem Touch.value_micro [Exact D]
    {book : OrderBook D} {bid ask : PriceLevel D} {micro : D}
    (touch : Touch book bid ask micro) (positive : book.Positive) :
    value micro = microPoint bid ask := by
  rcases positive.microPrice touch.isBid touch.isAsk with
    ⟨found, defined, atPoint⟩
  have same : found = micro :=
    Option.some.inj (defined.symm.trans touch.isMicro)
  exact same ▸ atPoint

theorem OrderBook.Positive.microPriceFollows [Exact D]
    {book other : OrderBook D}
    (positive : book.Positive) (otherPositive : other.Positive) :
    MicroPriceFollows book other := by
  intro bid ask micro bid' ask' micro' touch touch' sameBid sameAsk rising
  have bidPos := positive.bestBid touch.isBid
  have askPos := positive.bestAsk touch.isAsk
  rw [touch.value_micro positive, touch'.value_micro otherPositive]
  constructor
  · intro sameQuantity moreBid
    apply microPoint_lt_microPoint sameBid sameAsk rising
    rw [bidShare, bidShare, ← sameQuantity]
    exact share_lt_share_of_part bidPos.le askPos moreBid
  · intro sameQuantity moreAsk
    have rising' : value bid'.price < value ask'.price := by
      rwa [← sameBid, ← sameAsk]
    apply microPoint_lt_microPoint sameBid.symm sameAsk.symm rising'
    rw [bidShare, bidShare, ← sameQuantity]
    exact share_lt_share_of_rest bidPos askPos.le moreAsk

/--
On every book written by nonnegative quantities the micro-price is defined
exactly over two nonempty sides and lies between the best prices at the
bid's share of the touch, and between any two such books it follows the
quantities.
-/
theorem micro_price_law
    (D : Type) [Decimal D] [Exact D]
    {calls : List (Call D)} (nonnegative : NonnegativeCalls calls) :
    ((OrderBook.afterCalls calls).microPrice.isSome ↔
        (OrderBook.afterCalls calls).bids.entries ≠ [] ∧
          (OrderBook.afterCalls calls).asks.entries ≠ []) ∧
      (∀ bid ask micro,
        Touch (OrderBook.afterCalls calls) bid ask micro →
          MicroPriceOf bid ask (value micro)) ∧
      ∀ others : List (Call D), NonnegativeCalls others →
        MicroPriceFollows (OrderBook.afterCalls calls)
          (OrderBook.afterCalls others) := by
  have positive := positive_afterCalls nonnegative
  refine ⟨positive.microPrice_isSome_iff, ?_, ?_⟩
  · intro bid ask micro touch
    rw [touch.value_micro positive]
    exact
      microPriceOf_microPoint (positive.bestBid touch.isBid)
        (positive.bestAsk touch.isAsk)
  · intro others othersNonnegative
    exact positive.microPriceFollows (positive_afterCalls othersNonnegative)

/-! ### A bid three times the ask -/

/-- Three to buy at 100 and one to sell at 104. -/
def heavyBid : List (Call ℚ) :=
  [.apply ⟨1, 1, [⟨100, 3⟩], [⟨104, 1⟩]⟩]

theorem nonnegativeCalls_heavyBid : NonnegativeCalls heavyBid := by
  intro update member
  rw [heavyBid, List.mem_singleton, Call.apply.injEq] at member
  subst update
  decide +kernel

theorem heavyBid_touch :
    Touch (OrderBook.afterCalls heavyBid) ⟨100, 3⟩ ⟨104, 1⟩ 103 := by
  constructor
  · decide +kernel
  · decide +kernel
  · decide +kernel

/-- The micro-price 103 is three quarters of the way to the ask. -/
theorem micro_price_law_sample :
    MicroPriceOf (⟨100, 3⟩ : PriceLevel ℚ) ⟨104, 1⟩ 103 :=
  (micro_price_law ℚ nonnegativeCalls_heavyBid).2.1 _ _ _ heavyBid_touch

end CryptoOrderbook.Book
