import CryptoOrderbook.Orderbook.Book

/-!
# Top-of-book queries

A query lists an initial part of a traversal of one side, the bids from the
highest price downwards and the asks from the lowest upwards.  The order of
the stored levels is part of the type of a side, so the queries are exact on
every book that the operations can build.
-/

namespace CryptoOrderbook.Book

open CryptoOrderbook.Library

variable {D : Type} [Decimal D]

/-- What a query for the best `n` levels of a side must list. -/
structure TopLevels
    (levels : Levels D) (better : ℚ → ℚ → Prop) (n : Nat)
    (listed : List (PriceLevel D)) : Prop where
  ordered : listed.Pairwise fun left right =>
    better (Decimal.value left.price) (Decimal.value right.price)
  length : listed.length = min n levels.size
  stored : ∀ level ∈ listed, (level.price, level.quantity) ∈ levels.entries
  worse : ∀ price quantity, (price, quantity) ∈ levels.entries →
    ⟨price, quantity⟩ ∉ listed →
      ∀ level ∈ listed,
        better (Decimal.value level.price) (Decimal.value price)

omit [Decimal D] in
theorem mem_map_level
    {entries : List (D × D)} {price quantity : D} :
    (⟨price, quantity⟩ : PriceLevel D) ∈
        entries.map (fun (price, quantity) => ⟨price, quantity⟩) ↔
      (price, quantity) ∈ entries := by
  simp

/-- An initial part of an ordered traversal lists the best levels. -/
theorem topLevels_of_traversal
    {levels : Levels D} {better : ℚ → ℚ → Prop}
    {traversal : List (D × D)} (n : Nat)
    (complete : traversal.Perm levels.entries)
    (ordered : traversal.Pairwise fun left right =>
      better (Decimal.value left.1) (Decimal.value right.1)) :
    TopLevels levels better n
      ((traversal.take n).map fun (price, quantity) => ⟨price, quantity⟩) := by
  have parts := List.take_append_drop n traversal
  rw [← parts, List.pairwise_append] at ordered
  rcases ordered with ⟨listedOrdered, -, separated⟩
  constructor
  · exact List.pairwise_map.mpr listedOrdered
  · rw [List.length_map, List.length_take, complete.length_eq]
    rfl
  · rintro ⟨price, quantity⟩ member
    exact complete.subset (List.mem_of_mem_take (mem_map_level.mp member))
  · intro price quantity stored unlisted ⟨betterPrice, betterQuantity⟩ listed
    have visited : (price, quantity) ∈ traversal.take n ++ traversal.drop n :=
      parts.symm ▸ complete.symm.subset stored
    rcases List.mem_append.mp visited with early | late
    · exact absurd (mem_map_level.mpr early) unlisted
    · exact separated _ (mem_map_level.mp listed) _ late

namespace OrderBook

theorem topBids_topLevels (book : OrderBook D) (n : Nat) :
    TopLevels book.bids (· > ·) n (book.topBids n) :=
  topLevels_of_traversal n (List.reverse_perm _)
    (List.pairwise_reverse.mpr book.bids.sorted)

theorem topAsks_topLevels (book : OrderBook D) (n : Nat) :
    TopLevels book.asks (· < ·) n (book.topAsks n) :=
  topLevels_of_traversal n (List.Perm.refl _) book.asks.sorted

theorem topBids_prefix (book : OrderBook D) {fewer n : Nat} (le : fewer ≤ n) :
    book.topBids fewer <+: book.topBids n :=
  List.IsPrefix.map _ (List.take_prefix_take_left le)

theorem topAsks_prefix (book : OrderBook D) {fewer n : Nat} (le : fewer ≤ n) :
    book.topAsks fewer <+: book.topAsks n :=
  List.IsPrefix.map _ (List.take_prefix_take_left le)

theorem bestBid_eq_head?
    (book : OrderBook D) {n : Nat} (positive : 0 < n) :
    book.bestBid = (book.topBids n).head? := by
  rw [topBids, List.head?_map, List.head?_take, if_neg positive.ne',
    List.head?_reverse]
  rfl

theorem bestAsk_eq_head?
    (book : OrderBook D) {n : Nat} (positive : 0 < n) :
    book.bestAsk = (book.topAsks n).head? := by
  rw [topAsks, List.head?_map, List.head?_take, if_neg positive.ne']
  rfl

theorem bestBid_eq_none_iff (book : OrderBook D) :
    book.bestBid = none ↔ book.bids.entries = [] := by
  rw [bestBid, Option.map_eq_none_iff, RankedMap.last?,
    List.getLast?_eq_none_iff]

theorem bestAsk_eq_none_iff (book : OrderBook D) :
    book.bestAsk = none ↔ book.asks.entries = [] := by
  rw [bestAsk, Option.map_eq_none_iff, RankedMap.first?,
    List.head?_eq_none_iff]

theorem spread_of_best
    {book : OrderBook D} {bid ask : PriceLevel D}
    (isBid : book.bestBid = some bid) (isAsk : book.bestAsk = some ask) :
    book.spread = some (ask.price - bid.price) := by
  rw [spread, isBid, isAsk]
  rfl

theorem spread_isSome_iff (book : OrderBook D) :
    book.spread.isSome ↔
      book.bids.entries ≠ [] ∧ book.asks.entries ≠ [] := by
  rw [Ne, Ne, ← bestBid_eq_none_iff, ← bestAsk_eq_none_iff]
  cases isBid : book.bestBid with
  | none => simp [spread, isBid]
  | some bid =>
      cases isAsk : book.bestAsk with
      | none => simp [spread, isBid, isAsk]
      | some ask => simp [spread_of_best isBid isAsk]

end OrderBook

/--
On every book the queries list the best stored levels in order, the longer
list extending the shorter; the best levels are their heads and the spread is
the difference of the best prices.
-/
theorem top_of_book_exact (book : OrderBook D) (n : Nat) :
    TopLevels book.bids (· > ·) n (book.topBids n) ∧
      TopLevels book.asks (· < ·) n (book.topAsks n) ∧
      (∀ fewer ≤ n,
        book.topBids fewer <+: book.topBids n ∧
          book.topAsks fewer <+: book.topAsks n) ∧
      (0 < n →
        book.bestBid = (book.topBids n).head? ∧
          book.bestAsk = (book.topAsks n).head?) ∧
      (book.bestBid = none ↔ book.bids.entries = []) ∧
      (book.bestAsk = none ↔ book.asks.entries = []) ∧
      (∀ bid ask,
        book.bestBid = some bid → book.bestAsk = some ask →
          book.spread = some (ask.price - bid.price)) ∧
      (book.spread.isSome ↔
        book.bids.entries ≠ [] ∧ book.asks.entries ≠ []) := by
  refine ⟨book.topBids_topLevels n, book.topAsks_topLevels n, ?_, ?_,
    book.bestBid_eq_none_iff, book.bestAsk_eq_none_iff, ?_,
    book.spread_isSome_iff⟩
  · intro fewer le
    exact ⟨book.topBids_prefix le, book.topAsks_prefix le⟩
  · intro positive
    exact ⟨book.bestBid_eq_head? positive, book.bestAsk_eq_head? positive⟩
  · intro bid ask isBid isAsk
    exact OrderBook.spread_of_best isBid isAsk

end CryptoOrderbook.Book
