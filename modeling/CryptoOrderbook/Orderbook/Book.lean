import CryptoOrderbook.Library.RankedMap
import CryptoOrderbook.Ws.Binance

/-!
# The in-memory order book

Both sides of the book are ordered maps from price to quantity whose keys are
compared by numeric value (`src/orderbook/book.rs`).  Applying an update sets
or removes the listed levels one after another and records the update's last
id; it never looks at sequence numbers.
-/

namespace CryptoOrderbook.Book

open CryptoOrderbook.Library
open CryptoOrderbook.Binance

variable {D : Type} [Decimal D]

/-- `BTreeMap<Decimal, Decimal>`. -/
abbrev Levels (D : Type) [Decimal D] :=
  RankedMap (Decimal.value : D → ℚ) D

/-- The in-memory order book for a single trading pair. -/
structure OrderBook (D : Type) [Decimal D] where
  bids : Levels D
  asks : Levels D
  lastUpdateId : UInt64
deriving DecidableEq

/-- A level returned by queries on the book. -/
structure PriceLevel (D : Type) where
  price : D
  quantity : D
deriving DecidableEq, Repr

@[ext]
theorem OrderBook.ext {left right : OrderBook D}
    (bids : left.bids = right.bids) (asks : left.asks = right.asks)
    (lastUpdateId : left.lastUpdateId = right.lastUpdateId) :
    left = right := by
  cases left
  cases right
  cases bids
  cases asks
  cases lastUpdateId
  rfl

/-- Apply price level updates to one side, in order. -/
def applyLevels (map : Levels D) :
    List (Binance.PriceLevel D) → Levels D
  | [] => map
  | level :: rest =>
      if level.isRemoval then
        applyLevels (map.remove level.price) rest
      else
        applyLevels (map.insert level.price level.quantity) rest

/-- The quantity of the last entry for a price, if there is one. -/
def lastEntry (price : ℚ) : List (Binance.PriceLevel D) → Option D
  | [] => none
  | level :: rest =>
      match lastEntry price rest with
      | some quantity => some quantity
      | none =>
          if Decimal.value level.price = price then some level.quantity
          else none

theorem lastEntry_eq_none_iff
    {price : ℚ} {levels : List (Binance.PriceLevel D)} :
    lastEntry price levels = none ↔
      ∀ level ∈ levels, Decimal.value level.price ≠ price := by
  induction levels with
  | nil => simp [lastEntry]
  | cons level rest induction =>
      rw [lastEntry, List.forall_mem_cons, ← induction]
      cases lastEntry price rest with
      | some quantity => simp
      | none => simp

theorem mem_of_lastEntry
    {price : ℚ} {levels : List (Binance.PriceLevel D)} {quantity : D}
    (found : lastEntry price levels = some quantity) :
    ∃ level ∈ levels,
      Decimal.value level.price = price ∧ level.quantity = quantity := by
  induction levels with
  | nil => cases found
  | cons level rest induction =>
      rw [lastEntry] at found
      cases later : lastEntry price rest with
      | some newest =>
          rw [later] at found
          rcases induction (later.trans found) with ⟨candidate, member, facts⟩
          exact ⟨candidate, List.mem_cons_of_mem _ member, facts⟩
      | none =>
          rw [later] at found
          split_ifs at found with same
          exact ⟨level, List.mem_cons_self, same, Option.some.inj found⟩

/--
Within one list the last entry for a price decides: a zero quantity leaves no
level, any other quantity is stored, and a price without entry keeps what it
had.
-/
theorem get?_applyLevels
    (map : Levels D) (levels : List (Binance.PriceLevel D)) (price : ℚ) :
    (applyLevels map levels).get? price =
      match lastEntry price levels with
      | some quantity =>
          if Decimal.isZero quantity then none else some quantity
      | none => map.get? price := by
  induction levels generalizing map with
  | nil => rfl
  | cons level rest induction =>
      rw [applyLevels, lastEntry]
      by_cases removal : level.isRemoval
      · rw [if_pos removal, induction]
        have zero : Decimal.isZero level.quantity = true := removal
        cases lastEntry price rest with
        | some quantity => rfl
        | none =>
            rw [RankedMap.get?_remove]
            split_ifs <;> simp [zero]
      · rw [if_neg removal, induction]
        have nonzero : ¬ Decimal.isZero level.quantity = true := removal
        cases lastEntry price rest with
        | some quantity => rfl
        | none =>
            rw [RankedMap.get?_insert]
            split_ifs <;> simp [nonzero]

namespace OrderBook

/-- An empty book that has applied nothing. -/
def new : OrderBook D :=
  ⟨RankedMap.empty, RankedMap.empty, 0⟩

/-- Wipe all levels and reset the sequence counter. -/
def clear (_book : OrderBook D) : OrderBook D :=
  ⟨RankedMap.empty, RankedMap.empty, 0⟩

/-- Apply a parsed depth update; sequence numbers are not validated here. -/
def apply (book : OrderBook D) (update : DepthUpdate D) : OrderBook D :=
  ⟨applyLevels book.bids update.bids,
    applyLevels book.asks update.asks,
    update.lastUpdateId⟩

/-- The highest price any buyer is willing to pay. -/
def bestBid (book : OrderBook D) : Option (PriceLevel D) :=
  book.bids.last?.map fun (price, quantity) => ⟨price, quantity⟩

/-- The lowest price any seller is willing to accept. -/
def bestAsk (book : OrderBook D) : Option (PriceLevel D) :=
  book.asks.first?.map fun (price, quantity) => ⟨price, quantity⟩

/-- The gap between the best ask and the best bid. -/
def spread (book : OrderBook D) : Option D := do
  let bid := (← book.bestBid).price
  let ask := (← book.bestAsk).price
  return ask - bid

/-- The top `n` bid levels, from the highest price to the lowest. -/
def topBids (book : OrderBook D) (n : Nat) : List (PriceLevel D) :=
  (book.bids.entries.reverse.take n).map
    fun (price, quantity) => ⟨price, quantity⟩

/-- The top `n` ask levels, from the lowest price to the highest. -/
def topAsks (book : OrderBook D) (n : Nat) : List (PriceLevel D) :=
  (book.asks.entries.take n).map fun (price, quantity) => ⟨price, quantity⟩

/-- Number of bid levels. -/
def bidDepth (book : OrderBook D) : Nat :=
  book.bids.size

/-- Number of ask levels. -/
def askDepth (book : OrderBook D) : Nat :=
  book.asks.size

/-- Each side of the touch weighted by the other side's quantity. -/
def microPrice (book : OrderBook D) : Option D := do
  let bid ← book.bestBid
  let ask ← book.bestAsk
  let totalQty := bid.quantity + ask.quantity
  if Decimal.isZero totalQty then
    none
  else
    return (ask.price * bid.quantity + bid.price * ask.quantity) / totalQty

/-- The quantities of the listed levels, summed in order. -/
def sumQty (levels : List (PriceLevel D)) : D :=
  (levels.map PriceLevel.quantity).foldl (· + ·) 0

/-- Depth imbalance across the top `n` levels. -/
def depthImbalance (book : OrderBook D) (n : Nat) : Option D :=
  let bidQty := sumQty (book.topBids n)
  let askQty := sumQty (book.topAsks n)
  let total := bidQty + askQty
  if Decimal.isZero total then none else some ((bidQty - askQty) / total)

@[simp]
theorem clear_eq_new (book : OrderBook D) :
    book.clear = new :=
  rfl

@[simp]
theorem new_lastUpdateId :
    (new : OrderBook D).lastUpdateId = 0 :=
  rfl

@[simp]
theorem apply_lastUpdateId (book : OrderBook D) (update : DepthUpdate D) :
    (book.apply update).lastUpdateId = update.lastUpdateId :=
  rfl

/-- Updates applied in order. -/
def applyAll (book : OrderBook D) (updates : List (DepthUpdate D)) :
    OrderBook D :=
  updates.foldl apply book

@[simp]
theorem applyAll_nil (book : OrderBook D) :
    book.applyAll [] = book :=
  rfl

@[simp]
theorem applyAll_cons
    (book : OrderBook D) (update : DepthUpdate D)
    (updates : List (DepthUpdate D)) :
    book.applyAll (update :: updates) = (book.apply update).applyAll updates :=
  rfl

theorem applyAll_append
    (book : OrderBook D) (first second : List (DepthUpdate D)) :
    book.applyAll (first ++ second) = (book.applyAll first).applyAll second :=
  List.foldl_append

/-- After a nonempty list of updates the book stands at the last one's id. -/
theorem applyAll_lastUpdateId
    (book : OrderBook D) (updates : List (DepthUpdate D))
    (nonempty : updates ≠ []) :
    (book.applyAll updates).lastUpdateId =
      (updates.getLast nonempty).lastUpdateId := by
  conv_lhs => rw [← List.dropLast_concat_getLast nonempty]
  rw [applyAll_append]
  rfl

end OrderBook

end CryptoOrderbook.Book
