import CryptoOrderbook.Library.RankedWrites
import CryptoOrderbook.Orderbook.Book

/-!
# The last writer of a price

A book is a function of the calls made on it.  Since the last `clear`, each
side is determined by the entries written to that side alone, and at each
price by the last of them: prices are numbers, so entries whose prices are
written differently compete for one level.
-/

namespace CryptoOrderbook.Book

open CryptoOrderbook.Library
open CryptoOrderbook.Binance

variable {D : Type} [Decimal D]

/-! ## Levels as writes to a map -/

/-- The write an entry of an update makes. -/
def toWrite (level : Binance.PriceLevel D) : Write D D :=
  if level.isRemoval then .remove level.price
  else .insert level.price level.quantity

theorem applyLevels_eq_writeAll
    (map : Levels D) (levels : List (Binance.PriceLevel D)) :
    applyLevels map levels = map.writeAll (levels.map toWrite) := by
  induction levels generalizing map with
  | nil => rfl
  | cons level rest induction =>
      rw [applyLevels, List.map_cons, RankedMap.writeAll, List.foldl_cons,
        toWrite]
      split_ifs
      · exact induction _
      · exact induction _

theorem applyLevels_append
    (map : Levels D) (first second : List (Binance.PriceLevel D)) :
    applyLevels map (first ++ second) =
      applyLevels (applyLevels map first) second := by
  rw [applyLevels_eq_writeAll, applyLevels_eq_writeAll,
    applyLevels_eq_writeAll, List.map_append]
  exact List.foldl_append

/-- Applying a list of levels again changes nothing. -/
theorem applyLevels_idempotent
    (map : Levels D) (levels : List (Binance.PriceLevel D)) :
    applyLevels (applyLevels map levels) levels = applyLevels map levels := by
  rw [applyLevels_eq_writeAll, applyLevels_eq_writeAll]
  exact map.writeAll_writeAll _

/-! ## Histories of calls -/

/-- A call that mutates a book. -/
inductive Call (D : Type) where
  | apply (update : DepthUpdate D)
  | clear

/-- The updates applied since the last `clear`. -/
def sinceClear (calls : List (Call D)) : List (DepthUpdate D) :=
  calls.foldl
    (fun updates call =>
      match call with
      | .apply update => updates ++ [update]
      | .clear => [])
    []

omit [Decimal D] in
theorem sinceClear_apply (calls : List (Call D)) (update : DepthUpdate D) :
    sinceClear (calls ++ [.apply update]) = sinceClear calls ++ [update] :=
  List.foldl_append

omit [Decimal D] in
theorem sinceClear_clear (calls : List (Call D)) :
    sinceClear (calls ++ [.clear]) = [] :=
  List.foldl_append

/-- The bid entries written since the last `clear`, in order. -/
def bidEntries (calls : List (Call D)) : List (Binance.PriceLevel D) :=
  (sinceClear calls).flatMap DepthUpdate.bids

/-- The ask entries written since the last `clear`, in order. -/
def askEntries (calls : List (Call D)) : List (Binance.PriceLevel D) :=
  (sinceClear calls).flatMap DepthUpdate.asks

namespace OrderBook

def call (book : OrderBook D) : Call D → OrderBook D
  | .apply update => book.apply update
  | .clear => book.clear

/-- A new book after the calls. -/
def afterCalls (calls : List (Call D)) : OrderBook D :=
  calls.foldl call new

theorem afterCalls_append (calls more : List (Call D)) :
    afterCalls (calls ++ more) = more.foldl call (afterCalls calls) :=
  List.foldl_append

theorem afterCalls_eq_applyAll (calls : List (Call D)) :
    afterCalls calls = (new : OrderBook D).applyAll (sinceClear calls) := by
  induction calls using List.reverseRecOn with
  | nil => rfl
  | append_singleton earlier last induction =>
      rw [afterCalls_append, induction]
      cases last with
      | apply update =>
          rw [sinceClear_apply]
          exact (applyAll_append new (sinceClear earlier) [update]).symm
      | clear =>
          rw [sinceClear_clear]
          rfl

/-- Each side of a book is written by the entries of that side. -/
theorem applyAll_levels
    (book : OrderBook D) (updates : List (DepthUpdate D)) :
    (book.applyAll updates).bids =
        applyLevels book.bids (updates.flatMap DepthUpdate.bids) ∧
      (book.applyAll updates).asks =
        applyLevels book.asks (updates.flatMap DepthUpdate.asks) := by
  induction updates generalizing book with
  | nil => exact ⟨rfl, rfl⟩
  | cons update rest induction =>
      rw [List.flatMap_cons, List.flatMap_cons, applyLevels_append,
        applyLevels_append]
      exact induction (book.apply update)

theorem afterCalls_levels (calls : List (Call D)) :
    (afterCalls calls).bids =
        applyLevels RankedMap.empty (bidEntries calls) ∧
      (afterCalls calls).asks =
        applyLevels RankedMap.empty (askEntries calls) := by
  rw [afterCalls_eq_applyAll]
  exact applyAll_levels new _

theorem afterCalls_lastUpdateId (calls : List (Call D)) :
    (afterCalls calls).lastUpdateId =
      ((sinceClear calls).getLast?.map DepthUpdate.lastUpdateId).getD 0 := by
  rw [afterCalls_eq_applyAll]
  rcases List.eq_nil_or_concat (sinceClear calls) with
    nothing | ⟨earlier, last, split⟩
  · rw [nothing]
    rfl
  · rw [split, applyAll_lastUpdateId _ _ (by simp)]
    simp

end OrderBook

/-! ## The law -/

/-- A side holds a level at a price with a quantity. -/
def Holds (levels : Levels D) (price : ℚ) (quantity : D) : Prop :=
  ∃ key, (key, quantity) ∈ levels.entries ∧ Decimal.value key = price

/--
A side holds a level exactly where the last of the entries has a nonzero
quantity, and then with that quantity.
-/
def LastWriterWins
    (levels : Levels D) (entries : List (Binance.PriceLevel D)) : Prop :=
  ∀ price quantity,
    Holds levels price quantity ↔
      lastEntry price entries = some quantity ∧
        Decimal.isZero quantity = false

theorem lastWriterWins_applyLevels
    (entries : List (Binance.PriceLevel D)) :
    LastWriterWins (applyLevels RankedMap.empty entries) entries := by
  intro price quantity
  rw [Holds, ← RankedMap.get?_eq_some_iff, get?_applyLevels]
  cases found : lastEntry price entries with
  | none => simp
  | some newest =>
      show (if Decimal.isZero newest = true then none else some newest) =
          some quantity ↔
        some newest = some quantity ∧ Decimal.isZero quantity = false
      by_cases zero : Decimal.isZero newest = true
      · rw [if_pos zero, Option.some.injEq]
        constructor
        · intro impossible
          cases impossible
        · rintro ⟨rfl, nonzero⟩
          rw [zero] at nonzero
          cases nonzero
      · rw [if_neg zero, Option.some.injEq]
        constructor
        · rintro rfl
          exact ⟨rfl, Bool.eq_false_iff.mpr zero⟩
        · exact And.left

/--
For every sequence of calls the last entry for a price since the last
`clear` decides, each side on its own; two updates in turn write the levels
of one update with their lists concatenated, and an update just applied
changes nothing when applied again.
-/
theorem last_writer_wins (calls : List (Call D)) :
    LastWriterWins (OrderBook.afterCalls calls).bids (bidEntries calls) ∧
      LastWriterWins (OrderBook.afterCalls calls).asks (askEntries calls) ∧
      (∀ others : List (Call D),
        (bidEntries others = bidEntries calls →
          (OrderBook.afterCalls others).bids =
            (OrderBook.afterCalls calls).bids) ∧
        (askEntries others = askEntries calls →
          (OrderBook.afterCalls others).asks =
            (OrderBook.afterCalls calls).asks)) ∧
      (OrderBook.afterCalls calls).lastUpdateId =
        ((sinceClear calls).getLast?.map DepthUpdate.lastUpdateId).getD 0 ∧
      (∀ first second joined : DepthUpdate D,
        joined.bids = first.bids ++ second.bids →
          joined.asks = first.asks ++ second.asks →
            (OrderBook.afterCalls
                (calls ++ [.apply first, .apply second])).bids =
              (OrderBook.afterCalls (calls ++ [.apply joined])).bids ∧
            (OrderBook.afterCalls
                (calls ++ [.apply first, .apply second])).asks =
              (OrderBook.afterCalls (calls ++ [.apply joined])).asks) ∧
      ∀ update : DepthUpdate D,
        OrderBook.afterCalls (calls ++ [.apply update, .apply update]) =
          OrderBook.afterCalls (calls ++ [.apply update]) := by
  have bids : ∀ others : List (Call D),
      (OrderBook.afterCalls others).bids =
        applyLevels RankedMap.empty (bidEntries others) :=
    fun others => (OrderBook.afterCalls_levels others).1
  have asks : ∀ others : List (Call D),
      (OrderBook.afterCalls others).asks =
        applyLevels RankedMap.empty (askEntries others) :=
    fun others => (OrderBook.afterCalls_levels others).2
  refine ⟨?_, ?_, ?_, OrderBook.afterCalls_lastUpdateId calls, ?_, ?_⟩
  · rw [bids]
    exact lastWriterWins_applyLevels _
  · rw [asks]
    exact lastWriterWins_applyLevels _
  · intro others
    constructor
    · intro same
      rw [bids, bids, same]
    · intro same
      rw [asks, asks, same]
  · intro first second joined joinedBids joinedAsks
    rw [OrderBook.afterCalls_append, OrderBook.afterCalls_append]
    constructor
    · show applyLevels (applyLevels _ _) _ = applyLevels _ _
      rw [joinedBids, applyLevels_append]
    · show applyLevels (applyLevels _ _) _ = applyLevels _ _
      rw [joinedAsks, applyLevels_append]
  · intro update
    rw [OrderBook.afterCalls_append, OrderBook.afterCalls_append]
    apply OrderBook.ext
    · exact applyLevels_idempotent _ _
    · exact applyLevels_idempotent _ _
    · rfl

/-- Deletions touch their own side and price only. -/
example :
    (OrderBook.afterCalls (D := ℚ)
      [.apply ⟨1, 1, [⟨1, 2⟩, ⟨2, 3⟩], []⟩,
        .apply ⟨2, 2, [⟨2, 0⟩], [⟨1, 0⟩]⟩]).bids.entries = [(1, 2)] := by
  decide +kernel

end CryptoOrderbook.Book
